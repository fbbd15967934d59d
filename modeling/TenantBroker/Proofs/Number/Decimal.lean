import Mathlib.Data.List.Induction
import Mathlib.Tactic.SplitIfs
import TenantBroker.Number.Reading

/-!
# The decimal text of a number

The digits of a natural number are digits, spell it again, and begin with a zero only if they are
nothing else. A number that digits spell has no more digits than they are.
-/

namespace TenantBroker.Number

variable {n : Nat}

/-- The digits of a number. -/
def digits (n : Nat) : List Char := Nat.toDigits 10 n

/-- The digits of a number are digits. -/
theorem isDigit_of_mem_digits {c : Char} (h : c ∈ digits n) : c.isDigit = true :=
  Nat.isDigit_of_mem_toDigits (by decide) (by decide) h

/-- The digits of a number spell it. -/
theorem ofDigits_digits (n : Nat) : ofDigits (digits n) = n := by
  have hsame : ofDigits (digits n) = Nat.ofDigitChars 10 (digits n) 0 := by
    simp only [ofDigits, Nat.ofDigitChars, Nat.mul_comm 10]
    rfl
  rw [hsame, digits, Nat.ofDigitChars_toDigits (by decide) (by decide)]

/-- The digits of a number other than zero do not begin with a zero. The induction follows the
division by ten. -/
theorem head?_digits_ne_zero (h : n ≠ 0) : (digits n).head? ≠ some '0' := by
  induction n using Nat.strongRecOn with
  | ind n ih =>
    rw [digits, Nat.toDigits_eq_if (by decide)]
    split_ifs with hsmall
    · have hall : ∀ d < 10, d ≠ 0 → d.digitChar ≠ '0' := by decide
      simpa using hall n hsmall h
    · have hhead := ih (n / 10) (by omega) (by omega)
      rw [digits] at hhead
      obtain ⟨c, tail, hcons⟩ : ∃ c tail, Nat.toDigits 10 (n / 10) = c :: tail :=
        List.exists_cons_of_ne_nil Nat.toDigits_ne_nil
      rw [hcons] at hhead ⊢
      exact hhead

/-- Decimal digits spell a number that has no more of them. -/
theorem ofDigits_lt {cs : List Char} (h : ∀ c ∈ cs, c.isDigit = true) :
    ofDigits cs < Nat.pow 10 cs.length := by
  induction cs using List.reverseRecOn with
  | nil => decide
  | append_singleton cs c ih =>
    have hbefore := ih fun d hd ↦ h d (List.mem_append_left _ hd)
    have hc : c.toNat ≤ 57 := (Char.isDigit_iff_toNat.mp (h c (by simp))).2
    have hlast : ofDigits (cs ++ [c]) = ofDigits cs * 10 + (c.toNat - 48) := by
      rw [ofDigits, List.foldl_append]
      rfl
    have hnext : Nat.pow 10 (cs.length + 1) = Nat.pow 10 cs.length * 10 := rfl
    rw [hlast, List.length_append, List.length_singleton, hnext]
    omega

end TenantBroker.Number
