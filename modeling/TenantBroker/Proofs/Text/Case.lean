import TenantBroker.Text.Case

/-!
# Comparison with ASCII words

Full lower-casing takes two letters from beyond ASCII to ASCII ones: the capital I with a dot and
the Kelvin sign. A text therefore lower-cases to a word without `i` and `k` exactly if it is this
word up to the case of ASCII letters.
-/

namespace TenantBroker.Text

/-! ## Single characters -/

/-- A fact on the ASCII characters is one on their numbers. -/
theorem forall_ascii {P : Char → Prop} (h : ∀ n < 0x80, P (Char.ofNat n)) {c : Char}
    (hc : c.toNat < 0x80) : P c := by
  have hn := h c.toNat hc
  rwa [Char.ofNat_toNat] at hn

/-- The character of a number has this number, unless no character has it. -/
theorem toNat_ofNat (n : Nat) : (Char.ofNat n).toNat = n ∨ Char.ofNat n = '\x00' := by
  by_cases h : n.isValidChar
  · left
    rw [Char.ofNat, dif_pos h]
    rfl
  · right
    rw [Char.ofNat, dif_neg h]
    rfl

/-- A character from beyond ASCII has no small ASCII letter. -/
theorem toLower_beyond {c : Char} (hc : 0x80 ≤ c.toNat) : c.toLower = c := by
  refine dif_neg fun h ↦ ?_
  have hle : c.toNat ≤ 'Z'.toNat := UInt32.le_iff_toNat_le.mp h.2
  exact absurd (Nat.le_trans hc hle) (by decide)

/-- Taking the ASCII letters of a text to small ones acts on each of its characters. -/
theorem toList_toLower (s : String) : s.toLower.toList = s.toList.map Char.toLower := by
  rw [← String.toList_map]
  rfl

/-- An ASCII character that no character from beyond ASCII goes to. -/
def IsSettled (c : Char) : Prop := c.toNat < 0x80 ∧ c ≠ '\x00' ∧ c ≠ 'i' ∧ c ≠ 'k'

instance (c : Char) : Decidable (IsSettled c) := inferInstanceAs (Decidable (_ ∧ _ ∧ _ ∧ _))

/-- An ASCII character becomes its small letter. -/
theorem lowerAt_ascii {c : Char} (hc : c.toNat < 0x80) (before after : List Char) :
    lowerAt before c after = [c.toLower] := by
  have hsmall : foldAsciiChar c = c.toLower :=
    forall_ascii (P := fun c ↦ foldAsciiChar c = c.toLower) (by decide) hc
  have hsigma : c ≠ 'Σ' := by rintro rfl; exact absurd hc (by decide)
  have hdotted : c ≠ 'İ' := by rintro rfl; exact absurd hc (by decide)
  simp only [lowerAt, if_neg hsigma, if_neg hdotted, if_pos hc, hsmall]

/-- The table takes nothing to ASCII but the Kelvin sign. -/
private theorem beyond_of_mem : ∀ run ∈ lowercaseRuns, run.last < 0x80 ∨
    0x80 ≤ run.first + run.distance ∨
      run.first = 0x212A ∧ run.last = 0x212A ∧ run.first + run.distance = 'k'.toNat := by
  decide +kernel

/-- A character that is no ASCII one, or one that some character from beyond ASCII goes to on its
own. -/
def IsForeign (c : Char) : Prop := 0x80 ≤ c.toNat ∨ c = 'k' ∨ c = '\x00'

instance (c : Char) : Decidable (IsForeign c) := inferInstanceAs (Decidable (_ ∨ _ ∨ _))

private theorem isForeign_ofNat {n : Nat} (h : 0x80 ≤ n ∨ n = 'k'.toNat) :
    IsForeign (Char.ofNat n) := by
  rcases toNat_ofNat n with hn | hn
  · rcases h with h | rfl
    · exact .inl (hn.symm ▸ h)
    · exact .inr (.inl rfl)
  · exact .inr (.inr hn)

/-- By the table a character from beyond ASCII becomes a foreign one. -/
theorem isForeign_lowerChar {c : Char} (hc : 0x80 ≤ c.toNat) : IsForeign (lowerChar c) := by
  simp only [lowerChar]
  split
  · next run hrun =>
    have hmem := List.mem_of_find?_eq_some hrun
    have hrange := List.find?_some hrun
    simp only [Bool.and_eq_true, decide_eq_true_eq] at hrange
    obtain ⟨⟨hfirst, hlast⟩, -⟩ := hrange
    apply isForeign_ofNat
    rcases beyond_of_mem run hmem with h | h | ⟨h, h', hk⟩
    · omega
    · left; omega
    · right; omega
  · exact .inl hc

/-- A character from beyond ASCII becomes a foreign one, or an i with a dot of its own. -/
theorem lowerAt_beyond_cases {c : Char} (hc : 0x80 ≤ c.toNat) (before after : List Char) :
    (∃ d, lowerAt before c after = [d] ∧ IsForeign d) ∨
      lowerAt before c after = ['i', '\u0307'] := by
  unfold lowerAt
  split
  · split
    · exact .inl ⟨'ς', rfl, by decide⟩
    · exact .inl ⟨'σ', rfl, by decide⟩
  · split
    · exact .inr rfl
    · rw [if_neg (Nat.not_lt.mpr hc)]
      exact .inl ⟨lowerChar c, rfl, isForeign_lowerChar hc⟩

/-- A foreign character is not settled. -/
theorem IsForeign.not_settled {c : Char} (h : IsForeign c) : ¬ IsSettled c := by
  rintro ⟨hsmall, hzero, -, hk⟩
  rcases h with h | h | h
  · exact absurd hsmall (Nat.not_lt.mpr h)
  · exact hk h
  · exact hzero h

/-- What a character from beyond ASCII becomes does not begin with a settled one. -/
theorem lowerAt_beyond {c : Char} (hc : 0x80 ≤ c.toNat) (before after : List Char) :
    ∃ first rest, lowerAt before c after = first :: rest ∧ ¬ IsSettled first := by
  rcases lowerAt_beyond_cases hc before after with ⟨d, h, hd⟩ | h
  · exact ⟨d, [], h, hd.not_settled⟩
  · exact ⟨'i', ['\u0307'], h, by decide⟩

/-! ## Texts -/

/-- Characters lower-case to settled ones exactly if these are their small ASCII letters. -/
theorem lowerAfter_eq_iff {word : List Char} (h : ∀ c ∈ word, IsSettled c) (before cs : List Char) :
    lowerAfter before cs = word ↔ cs.map Char.toLower = word := by
  induction cs generalizing before word with
  | nil => rfl
  | cons c rest ih =>
    unfold lowerAfter
    by_cases hc : c.toNat < 0x80
    · rw [lowerAt_ascii hc, List.singleton_append, List.map_cons]
      cases word with
      | nil => simp
      | cons first others =>
        rw [List.cons.injEq, List.cons.injEq, ih (List.forall_mem_cons.mp h).2]
    · obtain ⟨first, others, hlower, hfirst⟩ := lowerAt_beyond (Nat.le_of_not_lt hc) before rest
      rw [hlower, List.map_cons, toLower_beyond (Nat.le_of_not_lt hc)]
      constructor
      · rintro rfl
        exact absurd (h first List.mem_cons_self) hfirst
      · rintro rfl
        exact absurd (h c List.mem_cons_self).1 hc

/-- A text lower-cases to a settled word exactly if it is this word up to the case of ASCII letters.
-/
theorem lower_eq_iff {word : String} (h : word.toList.all (IsSettled ·) = true) (s : String) :
    lower s = word ↔ s.toLower = word := by
  have hsettled : ∀ c ∈ word.toList, IsSettled c := by simpa using h
  rw [← String.toList_inj, ← String.toList_inj, lower, String.toList_ofList, toList_toLower]
  exact lowerAfter_eq_iff hsettled [] s.toList

end TenantBroker.Text
