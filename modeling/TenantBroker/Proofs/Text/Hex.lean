import TenantBroker.Text.Hex

/-!
# The value of hexadecimal text

Hexadecimal text that is wide enough for a number has that value, in small letters and in capital
ones.
-/

namespace TenantBroker.Text

/-- Sixteen characters are digits, each with its place as its value. -/
def AreHexDigits (digits : List Char) : Prop :=
  ∀ n < 16, hexValue? (digits.getD n '0') = some n

/-- The small letters are digits. -/
theorem areHexDigits_small : AreHexDigits smallHexDigits := by
  unfold AreHexDigits
  decide

/-- The capital letters are digits. -/
theorem areHexDigits_capital : AreHexDigits capitalHexDigits := by
  unfold AreHexDigits
  decide

/-- Hexadecimal text holds digits only. -/
theorem mem_of_mem_hexWith {digits : List Char} (hzero : '0' ∈ digits) {width n : Nat} {c : Char}
    (h : c ∈ hexWith digits width n) : c ∈ digits := by
  induction width generalizing n with
  | zero => cases h
  | succ width ih =>
    rcases List.mem_append.mp h with h | h
    · exact ih h
    · rw [List.mem_singleton.mp h, List.getD_eq_getElem?_getD]
      cases hdigit : digits[n % 16]? with
      | none => exact hzero
      | some digit => exact List.mem_of_getElem? hdigit

/-- Reading one more hexadecimal digit. -/
theorem hexNumber?_append (cs : List Char) (c : Char) :
    hexNumber? (cs ++ [c]) = (do pure (16 * (← hexNumber? cs) + (← hexValue? c))) := by
  rw [hexNumber?, List.foldl_append]
  rfl

/-- Hexadecimal text that is wide enough for a number has its value. -/
theorem hexNumber?_hexWith {digits : List Char} (hdigits : AreHexDigits digits) (width n : Nat)
    (h : n < Nat.pow 16 width) : hexNumber? (hexWith digits width n) = some n := by
  induction width generalizing n with
  | zero =>
    obtain rfl : n = 0 := Nat.lt_one_iff.mp h
    rfl
  | succ width ih =>
    have hhigh : n / 16 < Nat.pow 16 width := (Nat.div_lt_iff_lt_mul (by decide)).mpr h
    rw [hexWith, hexNumber?_append, ih (n / 16) hhigh, hdigits _ (Nat.mod_lt n (by decide))]
    exact congrArg some (Nat.div_add_mod n 16)

end TenantBroker.Text
