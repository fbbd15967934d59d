import Mathlib.Tactic.GCongr
import Mathlib.Tactic.Ring
import TenantBroker.Number.Binary64

/-!
# Every number has one form

A magnitude has one form at most, and what a ratio or a decimal is rounded to is in form: the
exponent is chosen so that the whole part of the scaled ratio has 53 binary digits, or is the least
one.
-/

namespace TenantBroker.Binary64

/-- A number that is in form if it is finite. -/
def InForm : Binary64 → Prop
  | .finite _ significand exponent => Canonical significand exponent
  | _ => True

/-- A magnitude has one form, told here in units of the least exponent. -/
theorem canonical_unique {s t : Nat} {d e : Int} (hs : Canonical s d) (ht : Canonical t e)
    (h : s * 2 ^ (d - minExponent).toNat = t * 2 ^ (e - minExponent).toNat) : s = t ∧ d = e := by
  -- Of two exponents the greater one has a full significand, too large for the other.
  have hle {s t : Nat} {d e : Int} (hs : Canonical s d) (ht : Canonical t e) (hde : d ≤ e)
      (h : s * 2 ^ (d - minExponent).toNat = t * 2 ^ (e - minExponent).toNat) :
      s = t ∧ d = e := by
    obtain ⟨hsbound, hdmin, -⟩ := hs
    obtain ⟨-, -, -, hfull⟩ := ht
    obtain ⟨k, hk⟩ : ∃ k, (e - minExponent).toNat = (d - minExponent).toNat + k :=
      ⟨(e - d).toNat, by omega⟩
    have hpos : 0 < 2 ^ (d - minExponent).toNat := Nat.two_pow_pos _
    rw [hk, Nat.pow_add, Nat.mul_comm (2 ^ _), ← Nat.mul_assoc] at h
    have hst : s = t * 2 ^ k := Nat.eq_of_mul_eq_mul_right hpos h
    cases k with
    | zero => exact ⟨by simpa using hst, by omega⟩
    | succ k =>
      have hfull' : Nat.pow 2 52 ≤ t := hfull.resolve_right (by omega)
      have htwo : t * 2 ≤ t * 2 ^ (k + 1) :=
        Nat.mul_le_mul_left t (Nat.le_self_pow (Nat.succ_ne_zero k) 2)
      have hpow : Nat.pow 2 53 = Nat.pow 2 52 * 2 := rfl
      omega
  rcases Int.le_total d e with hde | hed
  · exact hle hs ht hde h
  · obtain ⟨hts, hed⟩ := hle ht hs hed h.symm
    exact ⟨hts.symm, hed.symm⟩

/-! ## The scaled ratio -/

/-- The whole part of a ratio in units of a power of two. -/
def quotient (num den : Nat) (exponent : Int) : Nat :=
  (scaleDown num den exponent).1 / (scaleDown num den exponent).2

/-- The whole part in units of at least one. -/
theorem quotient_of_nonneg (num den : Nat) {exponent : Int} (h : 0 ≤ exponent) :
    quotient num den exponent = num / (den * 2 ^ exponent.toNat) := by
  rw [quotient, scaleDown, if_pos h]
  rfl

/-- The whole part in units of at most one. -/
theorem quotient_of_nonpos (num den : Nat) {exponent : Int} (h : exponent ≤ 0) :
    quotient num den exponent = num * 2 ^ (-exponent).toNat / den := by
  unfold quotient scaleDown
  split
  · next hnonneg =>
    obtain rfl : exponent = 0 := by omega
    simp [Nat.pow_eq]
  · rfl

/-- In units twice as large the whole part is halved. -/
theorem quotient_succ (num den : Nat) (exponent : Int) :
    quotient num den (exponent + 1) = quotient num den exponent / 2 := by
  by_cases hpos : 0 ≤ exponent
  · have hnat : (exponent + 1).toNat = exponent.toNat + 1 := by omega
    rw [quotient_of_nonneg _ _ hpos, quotient_of_nonneg _ _ (by omega), hnat, Nat.pow_succ,
      Nat.div_div_eq_div_mul, Nat.mul_assoc]
  · have hnat : (-exponent).toNat = (-(exponent + 1)).toNat + 1 := by omega
    rw [quotient_of_nonpos _ _ (by omega), quotient_of_nonpos _ _ (by omega), hnat, Nat.pow_succ,
      Nat.div_div_eq_div_mul, ← Nat.mul_assoc, Nat.mul_div_mul_right _ _ (by decide)]

/-- In greater units the whole part is no greater. -/
theorem quotient_anti (num den : Nat) {d e : Int} (h : d ≤ e) :
    quotient num den e ≤ quotient num den d := by
  obtain ⟨k, rfl⟩ : ∃ k : Nat, e = d + k := ⟨(e - d).toNat, by omega⟩
  clear h
  induction k with
  | zero => simp
  | succ k ih =>
    rw [Int.natCast_succ, ← Int.add_assoc, quotient_succ]
    omega

/-- The exponent at which a ratio has about as many binary digits as a significand. -/
def guess (num den : Nat) : Int := (num.log2 : Int) - den.log2 - 53

/-- At the guess the whole part has 53 or 54 binary digits. -/
theorem quotient_guess {num den : Nat} (hnum : num ≠ 0) (hden : den ≠ 0) :
    2 ^ 52 ≤ quotient num den (guess num den) ∧ quotient num den (guess num den) < 2 ^ 54 := by
  have hnumlow := Nat.log2_self_le hnum
  have hnumhigh := Nat.lt_log2_self (n := num)
  have hdenlow := Nat.log2_self_le hden
  have hdenhigh := Nat.lt_log2_self (n := den)
  rcases Int.le_total 0 (guess num den) with h | h
  · obtain ⟨g, hg⟩ : ∃ g : Nat, guess num den = g := ⟨_, (Int.toNat_of_nonneg h).symm⟩
    have hlog : num.log2 = den.log2 + 53 + g := by
      unfold guess at hg
      omega
    have hpos : 0 < den * 2 ^ g := Nat.mul_pos (Nat.pos_of_ne_zero hden) (Nat.two_pow_pos g)
    rw [quotient_of_nonneg _ _ h, hg, Int.toNat_natCast, Nat.le_div_iff_mul_le hpos,
      Nat.div_lt_iff_lt_mul hpos]
    constructor
    · calc 2 ^ 52 * (den * 2 ^ g) ≤ 2 ^ 52 * (2 ^ (den.log2 + 1) * 2 ^ g) := by gcongr
        _ = 2 ^ num.log2 := by rw [hlog]; ring
        _ ≤ num := hnumlow
    · calc num < 2 ^ (num.log2 + 1) := hnumhigh
        _ = 2 ^ 54 * (2 ^ den.log2 * 2 ^ g) := by rw [hlog]; ring
        _ ≤ 2 ^ 54 * (den * 2 ^ g) := by gcongr
  · obtain ⟨g, hg⟩ : ∃ g : Nat, -guess num den = g := ⟨_, (Int.toNat_of_nonneg (by omega)).symm⟩
    have hlog : num.log2 + g = den.log2 + 53 := by
      unfold guess at hg
      omega
    have hpos : 0 < den := Nat.pos_of_ne_zero hden
    rw [quotient_of_nonpos _ _ h, hg, Int.toNat_natCast, Nat.le_div_iff_mul_le hpos,
      Nat.div_lt_iff_lt_mul hpos]
    constructor
    · calc 2 ^ 52 * den ≤ 2 ^ 52 * 2 ^ (den.log2 + 1) := by gcongr
        _ = 2 ^ (den.log2 + 53) := by ring
        _ = 2 ^ num.log2 * 2 ^ g := by rw [← hlog, Nat.pow_add]
        _ ≤ num * 2 ^ g := by gcongr
    · calc num * 2 ^ g < 2 ^ (num.log2 + 1) * 2 ^ g :=
            Nat.mul_lt_mul_of_pos_right hnumhigh (Nat.two_pow_pos g)
        _ = 2 ^ (num.log2 + g + 1) := by ring
        _ = 2 ^ 54 * 2 ^ den.log2 := by rw [hlog]; ring
        _ ≤ 2 ^ 54 * den := by gcongr

/-- The exponent for a ratio is not below the least one, and the whole part there is below 2^53; it
is at least 2^52 unless the exponent is the least one. -/
theorem exponentFor_spec {num den : Nat} (hnum : num ≠ 0) (hden : den ≠ 0) :
    minExponent ≤ exponentFor num den ∧ quotient num den (exponentFor num den) < 2 ^ 53 ∧
      (2 ^ 52 ≤ quotient num den (exponentFor num den) ∨ exponentFor num den = minExponent) := by
  obtain ⟨hlow, hhigh⟩ := quotient_guess hnum hden
  obtain ⟨e, he, hlow, hhigh⟩ : ∃ e, exponentFor num den = max minExponent e ∧
      2 ^ 52 ≤ quotient num den e ∧ quotient num den e < 2 ^ 53 := by
    by_cases hlarge : 2 ^ 53 ≤ quotient num den (guess num den)
    · refine ⟨guess num den + 1, ?_, ?_⟩
      · exact congrArg (max minExponent) (if_pos hlarge)
      · rw [quotient_succ]
        omega
    · refine ⟨guess num den, ?_, hlow, by omega⟩
      exact congrArg (max minExponent) (if_neg hlarge)
  have hanti := quotient_anti num den (Int.le_max_right minExponent e)
  rw [he]
  rcases Int.le_total minExponent e with hle | hle
  · rw [Int.max_eq_right hle]
    exact ⟨hle, hhigh, .inl hlow⟩
  · rw [Int.max_eq_left hle] at hanti ⊢
    exact ⟨Int.le_refl _, by omega, .inr rfl⟩

/-! ## Rounding -/

/-- Rounding goes to the whole part or the next number. -/
theorem roundRatio_bounds (num den : Nat) :
    num / den ≤ roundRatio num den ∧ roundRatio num den ≤ num / den + 1 := by
  unfold roundRatio
  dsimp only
  split <;> omega

/-- A significand of at most 2^53 is brought into form. -/
theorem inForm_normalize (negative : Bool) {significand : Nat} {exponent : Int}
    (hexponent : minExponent ≤ exponent) (hsignificand : significand ≤ 2 ^ 53)
    (hfull : 2 ^ 52 ≤ significand ∨ exponent = minExponent) :
    (normalize negative significand exponent).InForm := by
  unfold normalize
  split
  · split
    · trivial
    · exact ⟨by decide, by omega, by omega, .inl (Nat.le_refl _)⟩
  · split
    · trivial
    · next hne hlarge =>
      exact ⟨Nat.lt_of_le_of_ne hsignificand hne, hexponent, by omega, hfull⟩

/-- Zero is in form. -/
theorem inForm_zeroOf (negative : Bool) : (zeroOf negative).InForm :=
  ⟨by decide, Int.le_refl _, by decide, .inr rfl⟩

/-- What a ratio is rounded to is in form. -/
theorem inForm_ofRatio (negative : Bool) (num : Nat) {den : Nat} (hden : den ≠ 0) :
    (ofRatio negative num den).InForm := by
  unfold ofRatio
  split
  · exact inForm_zeroOf negative
  · next hnum =>
    obtain ⟨hleast, hhigh, hfull⟩ := exponentFor_spec hnum hden
    have hround := roundRatio_bounds (scaleDown num den (exponentFor num den)).1
      (scaleDown num den (exponentFor num den)).2
    rw [← quotient] at hround
    change (normalize negative (roundRatio (scaleDown num den (exponentFor num den)).1
      (scaleDown num den (exponentFor num den)).2) (exponentFor num den)).InForm
    exact inForm_normalize negative hleast (by omega) (hfull.imp_left hround.1.trans')

/-- What a decimal is rounded to is in form. -/
theorem inForm_ofDecimal (negative : Bool) (digits : Nat) (exponent : Int) :
    (ofDecimal negative digits exponent).InForm := by
  unfold ofDecimal
  split
  · exact inForm_zeroOf negative
  · dsimp only
    split
    · trivial
    · split
      · exact inForm_zeroOf negative
      · split
        · exact inForm_ofRatio _ _ (by decide)
        · exact inForm_ofRatio _ _ (Nat.ne_of_gt (Nat.pow_pos (by decide : 0 < 10)))

/-- What a magnitude times a power of two is rounded to is in form. -/
theorem inForm_scaleUp (significand : Nat) (exponent : Int) (power : Nat) :
    (scaleUp significand exponent power).InForm := by
  unfold scaleUp
  dsimp only
  split
  · exact inForm_ofRatio _ _ (by decide)
  · exact inForm_ofRatio _ _ (Nat.ne_of_gt (Nat.two_pow_pos _))

end TenantBroker.Binary64
