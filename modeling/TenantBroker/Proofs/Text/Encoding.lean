import TenantBroker.Proofs.Text.Utf8
import TenantBroker.Text.Encoding

/-!
# A document in UTF-8 is read as such

A text that begins with an ASCII character and another one, neither of them zero, is taken for
UTF-8, whatever characters follow, and is read back from its bytes.
-/

namespace TenantBroker.Text

namespace Utf8

variable {first : UInt8} {more : List UInt8} {code : Nat}

/-- Bytes that spell a character spell no surrogate. -/
theorem Spells.spellsSurrogate_eq_false (h : Spells first more code) (tail : List UInt8) :
    spellsSurrogate first (more ++ tail) = false := by
  rw [Bool.eq_false_iff]
  intro hsurrogate
  have hfirst : first.toNat = 0xED := by
    unfold spellsSurrogate at hsurrogate
    split at hsurrogate
    · simp only [Bool.and_eq_true, beq_iff_eq] at hsurrogate
      exact hsurrogate.1.1.1
    · cases hsurrogate
  cases h with
  | one ha => omega
  | two ha ha' => omega
  | three ha ha' hb hc =>
    have hlow := (mayFollow_iff.mp hb).2.2.1 hfirst
    simp only [spellsSurrogate, List.cons_append, Bool.and_eq_true, decide_eq_true_eq]
      at hsurrogate
    omega
  | four ha => omega

/-- The pieces of an encoded text are its characters, also where surrogates are let through. -/
theorem characters_piecesFrom_encode (position : Nat) (cs : List Char) :
    characters (piecesFrom true 0 position (encode cs)) = .ok cs := by
  induction cs generalizing position with
  | nil => rfl
  | cons c cs ih =>
    obtain ⟨first, more, hc, hspells⟩ := spells_encodeChar c
    rw [encode_cons, hc, List.cons_append, piecesFrom, hspells.spellsSurrogate_eq_false,
      Bool.and_false, if_neg Bool.false_ne_true, hspells.head]
    simp [characters, piecesFrom_skip, ih]

/-- Decoding that lets surrogates through undoes encoding. -/
theorem decodeWithSurrogates_encode (cs : List Char) :
    decodeWithSurrogates (encode cs) = .ok cs := characters_piecesFrom_encode 0 cs

/-- An ASCII character is its own byte. -/
theorem encodeChar_of_ascii {c : Char} (h : c.toNat < 0x80) :
    String.utf8EncodeChar c = [UInt8.ofNat c.toNat] := by
  rw [utf8EncodeChar_eq, bytesOf, if_pos (by omega)]

/-- Only the zero character begins with a zero byte. -/
theorem Spells.first_ne_zero (h : Spells first more code) (hcode : code ≠ 0) : first ≠ 0 := by
  rintro rfl
  cases h with
  | one ha hzero => exact hcode hzero
  | two ha | three ha | four ha => exact absurd ha (by decide)

end Utf8

/-- Bytes that begin with an ASCII character and whose second byte is not zero are in UTF-8. -/
theorem Encoding.detect_of_ascii {first second : UInt8} {rest : List UInt8}
    (hfirst : first.toNat < 0x80) (hzero : first ≠ 0) (hsecond : second ≠ 0) :
    Encoding.detect (first :: second :: rest) = .utf8 0 := by
  -- A byte order mark begins with zero or with no ASCII character.
  have hnone {n : UInt8} (hn : n ≠ first) (mark : List UInt8) :
      ¬ (n :: mark).isPrefixOf (first :: second :: rest) = true := by
    rw [List.isPrefixOf_iff_prefix, List.cons_prefix_cons]
    exact fun h ↦ hn h.1
  have hbeyond {n : UInt8} (hn : 0x80 ≤ n.toNat) : n ≠ first :=
    fun h ↦ absurd (h ▸ hfirst) (Nat.not_lt.mpr hn)
  unfold detect
  rw [if_neg (hnone hzero.symm _), if_neg (hnone (hbeyond (by decide)) _),
    if_neg (hnone (hbeyond (by decide)) _), if_neg (hnone (hbeyond (by decide)) _),
    if_neg (hnone (hbeyond (by decide)) _)]
  match rest with
  | [] => exact (if_neg hzero).trans (if_neg hsecond)
  | [c] => rfl
  | c :: d :: tail => exact (if_neg hzero).trans (if_neg hsecond)

/-- A text that begins with an ASCII character and another one, neither of them zero, is read from
its bytes. -/
theorem decodeDetected_encode {c d : Char} (cs : List Char) (hc : c.toNat < 0x80)
    (hzero : c.toNat ≠ 0) (hd : d.toNat ≠ 0) :
    decodeDetected (Utf8.encode (c :: d :: cs)) = .ok (c :: d :: cs) := by
  obtain ⟨second, more, hmore, hspells⟩ := Utf8.spells_encodeChar d
  have hbyte : (UInt8.ofNat c.toNat).toNat = c.toNat :=
    UInt8.toNat_ofNat_of_lt' (show c.toNat < 256 by omega)
  have hbytes : Utf8.encode (c :: d :: cs) =
      UInt8.ofNat c.toNat :: second :: (more ++ Utf8.encode cs) := by
    rw [Utf8.encode_cons, Utf8.encodeChar_of_ascii hc, Utf8.encode_cons, hmore]
    rfl
  have hfirst : UInt8.ofNat c.toNat ≠ 0 := by
    intro h
    rw [h] at hbyte
    exact hzero hbyte.symm
  have hascii : (UInt8.ofNat c.toNat).toNat < 0x80 := by rw [hbyte]; exact hc
  rw [decodeDetected, hbytes, Encoding.detect_of_ascii hascii hfirst (hspells.first_ne_zero hd),
    ← hbytes]
  simp [Utf8.decodeWithSurrogates_encode]

end TenantBroker.Text
