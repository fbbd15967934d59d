/-!
# Hexadecimal digits

Fixed-width hexadecimal text, in small or capital letters, and the value of one digit.
-/

namespace TenantBroker.Text

/-- The digits of `Text.hex`, small letters. -/
def smallHexDigits : List Char :=
  ['0', '1', '2', '3', '4', '5', '6', '7', '8', '9', 'a', 'b', 'c', 'd', 'e', 'f']

/-- The digits of `Text.capitalHex`, capital letters. -/
def capitalHexDigits : List Char :=
  ['0', '1', '2', '3', '4', '5', '6', '7', '8', '9', 'A', 'B', 'C', 'D', 'E', 'F']

/-- The last `width` base-16 digits of a number, written with the given sixteen characters. -/
def hexWith (digits : List Char) : (width : Nat) → Nat → List Char
  | 0, _ => []
  | width + 1, n => hexWith digits width (n / 16) ++ [digits.getD (n % 16) '0']

/-- The last `width` base-16 digits of a number, in small letters. -/
def hex (width n : Nat) : List Char := hexWith smallHexDigits width n

/-- The last `width` base-16 digits of a number, in capital letters. -/
def capitalHex (width n : Nat) : List Char := hexWith capitalHexDigits width n

/-- The value of one hexadecimal digit of either case. -/
def hexValue? (c : Char) : Option Nat :=
  if '0' ≤ c ∧ c ≤ '9' then some (c.toNat - '0'.toNat)
  else if 'a' ≤ c ∧ c ≤ 'f' then some (c.toNat - 'a'.toNat + 10)
  else if 'A' ≤ c ∧ c ≤ 'F' then some (c.toNat - 'A'.toNat + 10)
  else none

/-- The value of a run of hexadecimal digits; none if one of them is not a digit. -/
def hexNumber? (cs : List Char) : Option Nat :=
  cs.foldl (fun value c ↦ do pure (16 * (← value) + (← hexValue? c))) (some 0)

/-- Hexadecimal text has exactly the width asked for. -/
theorem length_hexWith (digits : List Char) (width n : Nat) :
    (hexWith digits width n).length = width := by
  induction width generalizing n with
  | zero => rfl
  | succ width ih => simp [hexWith, ih]

end TenantBroker.Text
