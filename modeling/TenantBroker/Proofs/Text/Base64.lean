import TenantBroker.Proofs.Success
import TenantBroker.Text.Base64
import TenantBroker.Text.Blank

/-!
# Strict base64 undoes its encoding

The text of some bytes is decoded to these bytes, whatever the length of its last group. Such a text
holds nothing but ASCII characters, none of them blank, and does not begin with padding.
-/

namespace TenantBroker.Text.Base64

/-! ## Characters of the alphabet -/

variable {a b c d value groups : Nat} {rest : List Char}

/-- The character of a value has this value. -/
@[simp] theorem value?_character (h : value < 64) : value? (character value) = some value := by
  have hall : ∀ value < 64, value? (character value) = some value := by decide +kernel
  exact hall value h

/-- A character of an encoded text: ASCII and no blank. -/
def IsInk (c : Char) : Prop := c.toNat < 0x80 ∧ isBlank c = false
  deriving Decidable

/-- The character of a value is ink. -/
theorem isInk_character (h : value < 64) : IsInk (character value) := by
  have hall : ∀ value < 64, IsInk (character value) := by decide +kernel
  exact hall value h

/-- The character of a value is no padding. -/
@[simp] theorem character_ne_pad (h : value < 64) : character value ≠ '=' := by
  have hall : ∀ value < 64, character value ≠ '=' := by decide +kernel
  exact hall value h

/-! ## Groups -/

/-- Four characters are decoded to the bytes of their values, before the rest. -/
theorem decodeFrom_group (ha : a < 64) (hb : b < 64) (hc : c < 64) (hd : d < 64) :
    decodeFrom groups [] 0 false
        (character a :: character b :: character c :: character d :: rest) =
      (decodeFrom (groups + 1) [] 0 false rest).map (groupBytes [a, b, c, d] ++ ·) := by
  simp [decodeFrom, ha, hb, hc, hd]

/-- Two characters with padding are decoded to the byte that they spell. -/
theorem decodeFrom_two (ha : a < 64) (hb : b < 64) :
    decodeFrom groups [] 0 false [character a, character b, '=', '='] =
      .ok (groupBytes [a, b]) := by
  simp [decodeFrom, ha, hb]

/-- Three characters with padding are decoded to the two bytes that they spell. -/
theorem decodeFrom_three (ha : a < 64) (hb : b < 64) (hc : c < 64) :
    decodeFrom groups [] 0 false [character a, character b, character c, '='] =
      .ok (groupBytes [a, b, c]) := by
  simp [decodeFrom, ha, hb, hc]

/-! ## Encoded texts -/

/-- A byte is put together from any number with its value. -/
theorem ofNat_eq {n : Nat} {x : UInt8} (h : n = x.toNat) : UInt8.ofNat n = x := by
  rw [h, UInt8.ofNat_toNat]

/-- The values of an encoded group spell its bytes again. -/
theorem decodeFrom_encode (bytes : List UInt8) (groups : Nat) :
    decodeFrom groups [] 0 false (encode bytes) = .ok bytes := by
  fun_induction encode bytes generalizing groups with
  | case1 => rfl
  | case2 x =>
    have hx := x.toNat_lt
    rw [decodeFrom_two (by omega) (by omega), groupBytes, ofNat_eq (x := x) (by omega)]
  | case3 x y =>
    have hx := x.toNat_lt
    have hy := y.toNat_lt
    rw [decodeFrom_three (by omega) (by omega) (by omega), groupBytes,
      ofNat_eq (x := x) (by omega), ofNat_eq (x := y) (by omega)]
  | case4 x y z rest ih =>
    have hx := x.toNat_lt
    have hy := y.toNat_lt
    have hz := z.toNat_lt
    rw [decodeFrom_group (by omega) (by omega) (by omega) (by omega), ih, groupBytes,
      ofNat_eq (x := x) (by omega), ofNat_eq (x := y) (by omega), ofNat_eq (x := z) (by omega)]
    rfl

/-- An encoded text is ink. -/
theorem forall_mem_encode_isInk (bytes : List UInt8) : ∀ x ∈ encode bytes, IsInk x := by
  have hpad : IsInk '=' := by decide
  fun_induction encode bytes with
  | case1 => nofun
  | case2 x =>
    have hx := x.toNat_lt
    simp (disch := omega) [isInk_character, hpad]
  | case3 x y =>
    have hx := x.toNat_lt
    have hy := y.toNat_lt
    simp (disch := omega) [isInk_character, hpad]
  | case4 x y z rest ih =>
    have hx := x.toNat_lt
    have hy := y.toNat_lt
    have hz := z.toNat_lt
    simpa (disch := omega) [isInk_character] using ih

/-- An encoded text does not begin with padding. -/
theorem head?_encode_ne_pad (bytes : List UInt8) : (encode bytes).head? ≠ some '=' := by
  have hfirst (x : UInt8) : character (x.toNat / 4) ≠ '=' := by
    have hx := x.toNat_lt
    exact character_ne_pad (by omega)
  fun_cases encode bytes with
  | case1 => nofun
  | case2 x => simpa using hfirst x
  | case3 x y => simpa using hfirst x
  | case4 x y z rest => simpa using hfirst x

/-- Only the empty text is encoded as nothing. -/
theorem encode_ne_nil {bytes : List UInt8} (h : bytes ≠ []) : encode bytes ≠ [] := by
  fun_cases encode bytes <;> simp_all

/-- Decoding undoes encoding. -/
theorem decode_encode (bytes : List UInt8) : decode (encode bytes) = .ok bytes := by
  have hascii : ((encode bytes).any fun c ↦ 0x80 ≤ c.toNat) = false := by
    rw [List.any_eq_false]
    intro c hc
    simpa using (forall_mem_encode_isInk bytes c hc).1
  rw [decode, if_neg (by simp [hascii]), if_neg (head?_encode_ne_pad bytes)]
  exact decodeFrom_encode bytes 0

end TenantBroker.Text.Base64
