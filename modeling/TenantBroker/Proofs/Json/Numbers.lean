import Mathlib.Tactic.SplitIfs
import TenantBroker.Proofs.Json.Grammar
import TenantBroker.Proofs.Success

/-!
# Reading numbers is their grammar

The reader takes off as much as can belong to a number, part after part: a sign, the digits before
the point, a fraction and an exponent. Where a value has to end, this is the whole number.
-/

namespace TenantBroker.Json
variable {cs rest : List Char}

/-! ## What follows a value -/

/-- What may follow a value: nothing, a blank, a comma or a closing bracket. -/
def IsBoundary (rest : List Char) : Prop :=
  ∀ c ∈ rest.head?, isSpace c = true ∨ c = ',' ∨ c = ']' ∨ c = '\x7d'

variable {digits : List Char}

/-- No digit, point or letter of an exponent follows a value. -/
theorem IsBoundary.head (h : IsBoundary rest) {c : Char} (hc : c ∈ rest.head?) :
    c.isDigit = false ∧ c ≠ '.' ∧ c ≠ 'e' ∧ c ≠ 'E' := by
  have hc' := h c hc
  simp only [isSpace, Bool.or_eq_true, decide_eq_true_eq, or_assoc] at hc'
  rcases hc' with rfl | rfl | rfl | rfl | rfl | rfl | rfl <;> decide

/-- A text whose first character is no digit. -/
def NoDigit (rest : List Char) : Prop := ∀ c ∈ rest.head?, c.isDigit = false

/-- Digits are read up to the first character that is none. -/
theorem takeWhile_digits (hdigits : ∀ c ∈ digits, c.isDigit = true) (hrest : NoDigit rest) :
    (digits ++ rest).takeWhile Char.isDigit = digits ∧
      (digits ++ rest).dropWhile Char.isDigit = rest := by
  rw [List.takeWhile_append_of_pos hdigits, List.dropWhile_append_of_pos hdigits]
  cases rest with
  | nil => simp
  | cons c rest => simp [hrest c rfl]

/-- The digits before the point are read. -/
theorem splitWhole_append (h : IsWhole digits) (hrest : NoDigit rest) :
    splitWhole (digits ++ rest) = (digits, rest) := by
  obtain ⟨⟨hne, hall⟩, hzero⟩ := h
  obtain ⟨c, tail, rfl⟩ := List.exists_cons_of_ne_nil hne
  by_cases hc : c = '0'
  · subst hc
    obtain rfl := (List.cons.inj (hzero rfl)).2
    rfl
  · obtain ⟨htake, hdrop⟩ := takeWhile_digits hall hrest
    rw [splitWhole.eq_def]
    split
    · rename_i heq
      exact absurd (List.cons.inj heq).1 hc
    · rw [htake, hdrop]

/-- What is read before the point are its digits, if there are any. -/
theorem isWhole_of_splitWhole (h : splitWhole cs = (digits, rest)) :
    cs = digits ++ rest ∧ (digits ≠ [] → IsWhole digits) := by
  unfold splitWhole at h
  split at h
  · obtain ⟨rfl, rfl⟩ := Prod.mk.inj h
    exact ⟨rfl, fun _ ↦ ⟨⟨nofun, by simp⟩, fun _ ↦ rfl⟩⟩
  · rename_i hzero
    obtain ⟨rfl, rfl⟩ := Prod.mk.inj h
    refine ⟨List.takeWhile_append_dropWhile.symm, fun hne ↦
      ⟨⟨hne, List.all_eq_true.mp List.all_takeWhile⟩, fun hhead ↦ ?_⟩⟩
    cases cs with
    | nil => cases hne rfl
    | cons c rest =>
      rw [List.takeWhile_cons] at hhead
      split at hhead
      · obtain rfl := Option.some.inj hhead
        exact (hzero rest rfl).elim
      · cases hhead

variable {text : List Char}

/-- A fraction is read with its digits. -/
theorem splitFraction_append (h : SpellsFraction text digits) (hrest : NoDigit rest)
    (hpoint : rest.head? ≠ some '.') : splitFraction (text ++ rest) = (digits, rest) := by
  cases h with
  | none =>
    cases rest with
    | nil => rfl
    | cons c rest =>
      have hc : c ≠ '.' := by simpa using hpoint
      simp [splitFraction, hc]
  | point h =>
    obtain ⟨c, tail, rfl⟩ := List.exists_cons_of_ne_nil h.1
    obtain ⟨htake, hdrop⟩ := takeWhile_digits h.2 hrest
    rw [List.cons_append, splitFraction, htake, hdrop]
    simp [h.2 c List.mem_cons_self]

/-- A text that begins with a digit begins with digits. -/
theorem isDigits_takeWhile (h : cs.head?.any Char.isDigit = true) :
    IsDigits (cs.takeWhile Char.isDigit) := by
  refine ⟨?_, List.all_eq_true.mp List.all_takeWhile⟩
  cases cs with
  | nil => cases h
  | cons c rest =>
    rw [List.takeWhile_cons_of_pos (by simpa using h)]
    nofun

/-- What is read as a fraction is one. -/
theorem spellsFraction_of_splitFraction (h : splitFraction cs = (digits, rest)) :
    ∃ text, SpellsFraction text digits ∧ cs = text ++ rest := by
  unfold splitFraction at h
  split at h
  · split_ifs at h with hdigit
    · obtain ⟨rfl, rfl⟩ := Prod.mk.inj h
      refine ⟨_, .point (isDigits_takeWhile hdigit), ?_⟩
      rw [List.cons_append, List.takeWhile_append_dropWhile]
    · obtain ⟨rfl, rfl⟩ := Prod.mk.inj h
      exact ⟨[], .none, rfl⟩
  · obtain ⟨rfl, rfl⟩ := Prod.mk.inj h
    exact ⟨[], .none, rfl⟩

variable {sign : List Char} {negative : Bool}

/-- A sign before a digit is read. -/
theorem splitSign_append (h : SpellsSign sign negative) {c : Char} (hc : c.isDigit = true)
    (rest : List Char) : Number.splitSign (sign ++ c :: rest) = (negative, c :: rest) := by
  cases h with
  | none =>
    have hminus : c ≠ '-' := by
      rintro rfl
      cases hc
    have hplus : c ≠ '+' := by
      rintro rfl
      cases hc
    simp [Number.splitSign, hminus, hplus]
  | plus => rfl
  | minus => rfl

/-- What is read as a sign is one. -/
theorem spellsSign_of_splitSign (h : Number.splitSign cs = (negative, rest)) :
    ∃ sign, SpellsSign sign negative ∧ cs = sign ++ rest := by
  unfold Number.splitSign at h
  split at h <;> obtain ⟨rfl, rfl⟩ := Prod.mk.inj h
  · exact ⟨_, .minus, rfl⟩
  · exact ⟨_, .plus, rfl⟩
  · exact ⟨_, .none, rfl⟩

variable {exponent : Option Int}

/-- An exponent is read with its value. -/
theorem splitExponent_append (h : SpellsExponent text exponent) (hrest : IsBoundary rest) :
    splitExponent (text ++ rest) = (exponent, rest) := by
  cases h with
  | none =>
    cases rest with
    | nil => rfl
    | cons c rest =>
      obtain ⟨-, -, he, hE⟩ := hrest.head rfl
      simp [splitExponent, he, hE]
  | letter hletter hsign hdigits =>
    rename_i letter sign digits negative
    obtain ⟨htake, hdrop⟩ := takeWhile_digits hdigits.2 fun c hc ↦ (hrest.head hc).1
    obtain ⟨c, tail, rfl⟩ := List.exists_cons_of_ne_nil hdigits.1
    have hc := hdigits.2 c List.mem_cons_self
    rw [List.cons_append] at htake hdrop
    rw [List.cons_append, List.append_assoc, List.cons_append, splitExponent,
      splitSign_append hsign hc]
    simp [hletter, hc, htake, hdrop, signed]

/-- What is read as an exponent is one. -/
theorem spellsExponent_of_splitExponent (h : splitExponent cs = (exponent, rest)) :
    ∃ text, SpellsExponent text exponent ∧ cs = text ++ rest := by
  cases cs with
  | nil =>
    obtain ⟨rfl, rfl⟩ := Prod.mk.inj h
    exact ⟨[], .none, rfl⟩
  | cons c tail =>
    obtain ⟨⟨negative, digits⟩, hsplit⟩ : ∃ found, Number.splitSign tail = found := ⟨_, rfl⟩
    rw [splitExponent, hsplit] at h
    dsimp only at h
    by_cases hletter : (c = 'e' ∨ c = 'E') ∧ digits.head?.any Char.isDigit = true
    · rw [if_pos hletter] at h
      obtain ⟨rfl, rfl⟩ := Prod.mk.inj h
      obtain ⟨sign, hsign, rfl⟩ := spellsSign_of_splitSign hsplit
      refine ⟨_, .letter hletter.1 hsign (isDigits_takeWhile hletter.2), ?_⟩
      rw [List.cons_append, List.append_assoc, List.takeWhile_append_dropWhile]
    · rw [if_neg hletter] at h
      obtain ⟨rfl, rfl⟩ := Prod.mk.inj h
      exact ⟨[], .none, rfl⟩

/-- The sign of a number and what follows it. -/
def splitMinus : List Char → Bool × List Char
  | '-' :: rest => (true, rest)
  | cs => (false, cs)

/-- A sign before digits is read. -/
theorem splitMinus_append (negative : Bool) (hdigits : IsDigits digits) (rest : List Char) :
    splitMinus (minus negative ++ (digits ++ rest)) = (negative, digits ++ rest) := by
  obtain ⟨c, tail, rfl⟩ := List.exists_cons_of_ne_nil hdigits.1
  have hminus : c ≠ '-' := by
    rintro rfl
    cases hdigits.2 _ List.mem_cons_self
  cases negative with
  | true => rfl
  | false => simp [minus, splitMinus, hminus]

/-- What is read as a sign is one. -/
theorem eq_minus_append_of_splitMinus (h : splitMinus cs = (negative, rest)) :
    cs = minus negative ++ rest := by
  unfold splitMinus at h
  split at h <;> obtain ⟨rfl, rfl⟩ := Prod.mk.inj h <;> rfl

/-- Reading a number, part after part. -/
theorem readNumber_of_parts {fraction whole unsigned afterWhole afterFraction : List Char}
    (hminus : splitMinus cs = (negative, unsigned))
    (hwhole : splitWhole unsigned = (whole, afterWhole))
    (hfraction : splitFraction afterWhole = (fraction, afterFraction))
    (hexponent : splitExponent afterFraction = (exponent, rest)) :
    readNumber cs =
      if whole.isEmpty then stopAt .expectingValue cs
      else if fraction.isEmpty && exponent.isNone then
        if Number.maxDigits < whole.length then .error (.tooManyDigits whole.length)
        else .ok (.int (signed negative (Number.ofDigits whole)), rest)
      else
        .ok (.num (.real (Binary64.ofDecimal negative (Number.ofDigits (whole ++ fraction))
          (exponent.getD 0 - fraction.length))), rest) := by
  unfold splitMinus at hminus
  split at hminus
  · obtain ⟨rfl, rfl⟩ := Prod.mk.inj hminus
    simp only [readNumber, hwhole, hfraction, hexponent]
    rfl
  · rename_i hnot
    obtain ⟨rfl, rfl⟩ := Prod.mk.inj hminus
    simp only [readNumber, hwhole, hfraction, hexponent]
    rfl

/-- Neither a digit nor a point follows the digits before an exponent. -/
theorem SpellsExponent.head (h : SpellsExponent text exponent) (hrest : IsBoundary rest) :
    NoDigit (text ++ rest) ∧ (text ++ rest).head? ≠ some '.' := by
  cases h with
  | none => exact ⟨fun c hc ↦ (hrest.head hc).1, fun hc ↦ (hrest.head hc).2.1 rfl⟩
  | letter hletter => rcases hletter with rfl | rfl <;> simp [NoDigit]

/-- No digit follows the digits before a fraction. -/
theorem SpellsFraction.head (h : SpellsFraction text digits) (hrest : NoDigit rest) :
    NoDigit (text ++ rest) := by
  cases h with
  | none => exact hrest
  | point => simp [NoDigit]

/-- A number without a fraction and an exponent is the one whose texts are empty. -/
theorem isEmpty_and_isNone_iff {fractionText exponentText : List Char}
    (hfraction : SpellsFraction fractionText digits)
    (hexponent : SpellsExponent exponentText exponent) :
    (digits.isEmpty && exponent.isNone) = true ↔ fractionText ++ exponentText = [] := by
  cases hfraction <;> cases hexponent <;> simp
  rename_i h
  exact h.1

variable {number : Number}

/-- A number is read up to a boundary. -/
theorem SpellsNumber.read (h : SpellsNumber text number) (hrest : IsBoundary rest) :
    readNumber (text ++ rest) = .ok (.num number, rest) := by
  cases h with
  | int hwhole hshort =>
    rename_i negative whole
    obtain ⟨hdigit, hpoint⟩ := SpellsExponent.none.head hrest
    rw [List.append_assoc, readNumber_of_parts (splitMinus_append negative hwhole.1 rest)
      (splitWhole_append hwhole hdigit) (splitFraction_append .none hdigit hpoint)
      (splitExponent_append .none hrest)]
    simp [hwhole.1.1, Nat.not_lt.mpr hshort, Json.int]
  | real hwhole hfraction hexponent hsome =>
    rename_i negative whole fractionText fraction exponentText exponent
    obtain ⟨hdigit, hpoint⟩ := hexponent.head hrest
    have hboth := mt (isEmpty_and_isNone_iff hfraction hexponent).mp hsome
    simp only [List.append_assoc]
    rw [readNumber_of_parts (splitMinus_append negative hwhole.1 _)
      (splitWhole_append hwhole (hfraction.head hdigit))
      (splitFraction_append hfraction hdigit hpoint) (splitExponent_append hexponent hrest),
      if_neg (by simpa using hwhole.1.1), if_neg hboth]

/-- What is read as a number is one. -/
theorem spellsNumber_of_readNumber {value : Json} (h : readNumber cs = .ok (value, rest)) :
    ∃ text number, value = .num number ∧ SpellsNumber text number ∧ cs = text ++ rest := by
  obtain ⟨⟨negative, unsigned⟩, hminus⟩ : ∃ found, splitMinus cs = found := ⟨_, rfl⟩
  obtain ⟨⟨whole, afterWhole⟩, hwhole⟩ : ∃ found, splitWhole unsigned = found := ⟨_, rfl⟩
  obtain ⟨⟨fraction, afterFraction⟩, hfraction⟩ : ∃ found, splitFraction afterWhole = found :=
    ⟨_, rfl⟩
  obtain ⟨⟨exponent, after⟩, hexponent⟩ : ∃ found, splitExponent afterFraction = found := ⟨_, rfl⟩
  rw [readNumber_of_parts hminus hwhole hfraction hexponent] at h
  obtain rfl := eq_minus_append_of_splitMinus hminus
  obtain ⟨rfl, his⟩ := isWhole_of_splitWhole hwhole
  obtain ⟨fractionText, hspells, rfl⟩ := spellsFraction_of_splitFraction hfraction
  obtain ⟨exponentText, hspells', rfl⟩ := spellsExponent_of_splitExponent hexponent
  by_cases hempty : whole.isEmpty
  · rw [if_pos hempty] at h
    cases h
  replace his := his (by simpa using hempty)
  rw [if_neg hempty] at h
  by_cases hplain : (fraction.isEmpty && exponent.isNone) = true
  · rw [if_pos hplain] at h
    split_ifs at h with hlong
    obtain ⟨rfl, rfl⟩ := Prod.mk.inj (Except.ok.inj h)
    obtain ⟨rfl, rfl⟩ := List.append_eq_nil_iff.mp
      ((isEmpty_and_isNone_iff hspells hspells').mp hplain)
    exact ⟨_, _, rfl, .int his (by omega), by simp⟩
  · rw [if_neg hplain] at h
    obtain ⟨rfl, rfl⟩ := Prod.mk.inj (Except.ok.inj h)
    exact ⟨_, _, rfl, .real his hspells hspells'
      (mt (isEmpty_and_isNone_iff hspells hspells').mpr hplain), by simp⟩

end TenantBroker.Json
