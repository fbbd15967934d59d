import TenantBroker.Proofs.Text.Case
import TenantBroker.Text.Occurrence

/-!
# Patterns in lower-cased texts

A text shows a pattern if the pattern occurs in its full lower case. Patterns are looked for in a
text of which only the ASCII letters are lower-cased. This makes no difference: lower-casing brings
about no small ASCII letters but a `k` from the Kelvin sign and an `i` that a dot of its own
follows, so no pattern without `k` that does not end in `i` is met through another character.

No pattern is met across a line break that it does not have: the parts before and after the break
are lower-cased each on its own.
-/

namespace TenantBroker.Text

/-- A text shows a pattern: its lower case has it between two other parts. -/
def Shows (text pattern : String) : Prop := pattern.toList <:+: (lower text).toList

/-- A text shows one of some patterns. -/
def ShowsAny (text : String) (patterns : List String) : Prop :=
  ∃ pattern ∈ patterns, Shows text pattern

/-! ## Lower case of the ASCII letters alone -/

/-- Folding takes the ASCII letters to small ones. -/
theorem foldAsciiChar_eq_toLower (c : Char) : foldAsciiChar c = c.toLower := by
  by_cases hc : c.toNat < 0x80
  · exact forall_ascii (P := fun c ↦ foldAsciiChar c = c.toLower) (by decide) hc
  · rw [toLower_beyond (Nat.le_of_not_lt hc), foldAsciiChar, if_neg]
    rintro ⟨-, h⟩
    exact hc (Nat.lt_of_le_of_lt (show c.toNat ≤ 'Z'.toNat from h) (by decide))

/-- Texts that differ in the case of ASCII letters only mention the same patterns. -/
theorem mentions_congr {s t : String} (h : s.toLower = t.toLower) (patterns : List String) :
    mentions s patterns = mentions t patterns := by
  have hfolded : s.toList.map foldAsciiChar = t.toList.map foldAsciiChar := by
    rw [← String.toList_inj, toList_toLower, toList_toLower] at h
    simpa only [funext foldAsciiChar_eq_toLower] using h
  simp only [mentions, hfolded]

/-! ## Patterns that no other character brings about -/

/-- A pattern of ASCII characters without `k` that does not end in `i`. -/
structure IsPlain (pattern : List Char) : Prop where
  characters : ∀ c ∈ pattern, c.toNat < 0x80 ∧ ¬ IsForeign c
  last : pattern.getLast? ≠ some 'i'

instance (pattern : List Char) : Decidable (IsPlain pattern) :=
  decidable_of_iff
    (pattern.all (fun c ↦ c.toNat < 0x80 ∧ ¬ IsForeign c) = true ∧ pattern.getLast? ≠ some 'i')
    ⟨fun h ↦ ⟨by simpa using h.1, h.2⟩, fun h ↦ ⟨by simpa using h.characters, h.last⟩⟩

/-- A text is lower-cased character by character. -/
theorem lowerAfter_cons (before : List Char) (c : Char) (rest : List Char) :
    lowerAfter before (c :: rest) = lowerAt before c rest ++ lowerAfter (c :: before) rest := rfl

variable {pattern cs : List Char}

/-- The rest of a plain pattern is plain. -/
theorem IsPlain.tail {c : Char} (h : IsPlain (c :: pattern)) : IsPlain pattern := by
  refine ⟨(List.forall_mem_cons.mp h.characters).2, ?_⟩
  cases pattern with
  | nil => exact nofun
  | cons next rest =>
    have hlast := h.last
    rwa [List.getLast?_cons_cons] at hlast

/-- No plain pattern begins with a foreign character. -/
theorem IsPlain.not_prefix_foreign (h : IsPlain pattern) (hne : pattern ≠ []) {c : Char}
    (hc : IsForeign c) : ¬ pattern <+: c :: cs := by
  cases pattern with
  | nil => exact absurd rfl hne
  | cons first rest =>
    rw [List.cons_prefix_cons]
    rintro ⟨rfl, -⟩
    exact (h.characters first List.mem_cons_self).2 hc

/-- No plain pattern begins with an `i` that a dot of its own follows. -/
theorem IsPlain.not_prefix_dotted (h : IsPlain pattern) (hne : pattern ≠ []) :
    ¬ pattern <+: 'i' :: '\u0307' :: cs := by
  cases pattern with
  | nil => exact absurd rfl hne
  | cons first rest =>
    rw [List.cons_prefix_cons]
    rintro ⟨rfl, hrest⟩
    by_cases hnil : rest = []
    · exact h.last (by rw [hnil]; rfl)
    · exact h.tail.not_prefix_foreign hnil (by decide) hrest

/-- A text begins with a plain pattern in lower case exactly if it does with its ASCII letters in
lower case. -/
theorem IsPlain.prefix_lowerAfter_iff (h : IsPlain pattern) (before cs : List Char) :
    pattern <+: lowerAfter before cs ↔ pattern <+: cs.map foldAsciiChar := by
  induction cs generalizing pattern before with
  | nil => rfl
  | cons c rest ih =>
    by_cases hne : pattern = []
    · simp [hne]
    rw [lowerAfter_cons]
    by_cases hc : c.toNat < 0x80
    · rw [lowerAt_ascii hc, List.singleton_append, List.map_cons, foldAsciiChar_eq_toLower]
      cases pattern with
      | nil => exact absurd rfl hne
      | cons first others =>
        rw [List.cons_prefix_cons, List.cons_prefix_cons, ih h.tail]
    · have hbeyond := Nat.le_of_not_lt hc
      have hfolded : ¬ pattern <+: (c :: rest).map foldAsciiChar := by
        rw [List.map_cons, foldAsciiChar_eq_toLower, toLower_beyond hbeyond]
        exact h.not_prefix_foreign hne (.inl hbeyond)
      refine iff_of_false ?_ hfolded
      rcases lowerAt_beyond_cases hbeyond before rest with ⟨d, hd, hforeign⟩ | hd
      · rw [hd]
        exact h.not_prefix_foreign hne hforeign
      · rw [hd]
        exact h.not_prefix_dotted hne

/-- A plain pattern occurs in a text in lower case exactly if it does with the ASCII letters of the
text in lower case. -/
theorem IsPlain.infix_lowerAfter_iff (h : IsPlain pattern) (before cs : List Char) :
    pattern <:+: lowerAfter before cs ↔ pattern <:+: cs.map foldAsciiChar := by
  induction cs generalizing before with
  | nil => rfl
  | cons c rest ih =>
    by_cases hne : pattern = []
    · simp [hne]
    have hhead := h.prefix_lowerAfter_iff before (c :: rest)
    rw [List.map_cons] at hhead ⊢
    rw [List.infix_cons_iff, ← hhead, ← ih (c :: before), lowerAfter_cons]
    by_cases hc : c.toNat < 0x80
    · rw [lowerAt_ascii hc, List.singleton_append, List.infix_cons_iff]
    · rcases lowerAt_beyond_cases (Nat.le_of_not_lt hc) before rest with ⟨d, hd, -⟩ | hd
      · rw [hd, List.singleton_append, List.infix_cons_iff]
      · have hdot : ¬ pattern <+: '\u0307' :: lowerAfter (c :: before) rest :=
          h.not_prefix_foreign hne (by decide)
        rw [hd, List.cons_append, List.singleton_append, List.infix_cons_iff, List.infix_cons_iff]
        simp only [hdot, false_or]

/-! ## Tables of patterns -/

/-- Every pattern of a table is plain, or another one that occurs in it is. -/
def Covered (patterns : List String) : Prop :=
  ∀ pattern ∈ patterns, ∃ other ∈ patterns,
    IsPlain other.toList ∧ occursIn other.toList pattern.toList = true

instance (patterns : List String) : Decidable (Covered patterns) :=
  inferInstanceAs (Decidable (∀ _ ∈ _, _))

/-- A text mentions a pattern of a covered table exactly if it shows one. -/
theorem mentions_iff_showsAny {patterns : List String} (h : Covered patterns) (text : String) :
    mentions text patterns = true ↔ ShowsAny text patterns := by
  have hfolded (pattern : String) (hpattern : pattern ∈ patterns)
      (hoccurs : pattern.toList <:+: text.toList.map foldAsciiChar) : ShowsAny text patterns := by
    obtain ⟨other, hother, hplain, hin⟩ := h pattern hpattern
    refine ⟨other, hother, ?_⟩
    rw [Shows, lower, String.toList_ofList, hplain.infix_lowerAfter_iff]
    exact (occursIn_iff.mp hin).trans hoccurs
  have hlowered (pattern : String) (hpattern : pattern ∈ patterns) (hshows : Shows text pattern) :
      ∃ other ∈ patterns, other.toList <:+: text.toList.map foldAsciiChar := by
    obtain ⟨other, hother, hplain, hin⟩ := h pattern hpattern
    refine ⟨other, hother, ?_⟩
    rw [Shows, lower, String.toList_ofList] at hshows
    rw [← hplain.infix_lowerAfter_iff []]
    exact (occursIn_iff.mp hin).trans hshows
  simp only [mentions, List.any_eq_true, occursIn_iff]
  constructor
  · rintro ⟨pattern, hpattern, hoccurs⟩
    exact hfolded pattern hpattern hoccurs
  · rintro ⟨pattern, hpattern, hshows⟩
    exact hlowered pattern hpattern hshows

/-! ## Parts on either side of a line break -/

/-- A word without some character begins a text with this character exactly if it begins the part
before it. -/
theorem prefix_append_cons_iff {word a b : List Char} {c : Char} (h : c ∉ word) :
    word <+: a ++ c :: b ↔ word <+: a := by
  induction a generalizing word with
  | nil =>
    cases word with
    | nil => simp
    | cons first rest =>
      rw [List.nil_append, List.cons_prefix_cons]
      exact iff_of_false (fun hc ↦ h (hc.1 ▸ List.mem_cons_self)) nofun
  | cons first a ih =>
    cases word with
    | nil => simp
    | cons other rest =>
      rw [List.cons_append, List.cons_prefix_cons, List.cons_prefix_cons,
        ih fun hc ↦ h (List.mem_cons_of_mem _ hc)]

/-- A word without some character occurs in a text with this character exactly if it occurs before
or after it. -/
theorem infix_append_cons_iff {word a b : List Char} {c : Char} (h : c ∉ word) :
    word <:+: a ++ c :: b ↔ word <:+: a ∨ word <:+: b := by
  induction a with
  | nil =>
    have hhead : word <+: c :: b ↔ word <+: [] := prefix_append_cons_iff (a := []) h
    rw [List.nil_append, List.infix_cons_iff, hhead, List.prefix_nil, List.infix_nil]
  | cons first a ih =>
    rw [List.cons_append, List.infix_cons_iff, List.infix_cons_iff, ih, ← List.cons_append,
      prefix_append_cons_iff h, or_assoc]

/-- The first character that is no ignorable one is not looked for past a line break. -/
theorem head?_dropWhile_append_break (a b : List Char) :
    ((a ++ '\n' :: b).dropWhile isCaseIgnorable).head?.any isCased =
      (a.dropWhile isCaseIgnorable).head?.any isCased := by
  have hbreak : isCaseIgnorable '\n' = false ∧ isCased '\n' = false := by decide +kernel
  induction a with
  | nil => simp [hbreak]
  | cons c a ih =>
    rw [List.cons_append, List.dropWhile_cons, List.dropWhile_cons]
    split
    · exact ih
    · rfl

/-- What stands beyond a line break does not count for the lower case of a character. -/
theorem lowerAt_append_break (before far : List Char) (c : Char) (after rest : List Char) :
    lowerAt (before ++ '\n' :: far) c after = lowerAt before c after ∧
      lowerAt before c (after ++ '\n' :: rest) = lowerAt before c after := by
  constructor
  · rw [lowerAt, sigmaEndsWord, head?_dropWhile_append_break, ← sigmaEndsWord, ← lowerAt]
  · rw [lowerAt, sigmaEndsWord, head?_dropWhile_append_break, ← sigmaEndsWord, ← lowerAt]

/-- Lower-casing does not look back past a line break. -/
theorem lowerAfter_append_break (before far cs : List Char) :
    lowerAfter (before ++ '\n' :: far) cs = lowerAfter before cs := by
  induction cs generalizing before with
  | nil => rfl
  | cons c rest ih =>
    rw [lowerAfter_cons, lowerAfter_cons, (lowerAt_append_break before far c rest []).1,
      ← List.cons_append, ih]

/-- Two parts with a line break between them are lower-cased each on its own. -/
theorem lowerAfter_break (before a b : List Char) :
    lowerAfter before (a ++ '\n' :: b) = lowerAfter before a ++ '\n' :: lowerAfter [] b := by
  induction a generalizing before with
  | nil =>
    have hbreak : lowerAt before '\n' b = ['\n'] := lowerAt_ascii (by decide) before b
    rw [List.nil_append, lowerAfter_cons, hbreak, ← List.nil_append ('\n' :: before),
      lowerAfter_append_break]
    rfl
  | cons c a ih =>
    rw [List.cons_append, lowerAfter_cons, lowerAfter_cons, ih,
      (lowerAt_append_break before [] c a b).2, List.append_assoc]

/-- Two parts with a line break between them show a pattern without line breaks exactly if one of
them does. -/
theorem shows_break_iff {a b pattern : String} (h : '\n' ∉ pattern.toList) :
    Shows (a ++ "\n" ++ b) pattern ↔ Shows a pattern ∨ Shows b pattern := by
  have hparts : (a ++ "\n" ++ b).toList = a.toList ++ '\n' :: b.toList := by simp
  simp only [Shows, lower, String.toList_ofList]
  rw [hparts, lowerAfter_break, infix_append_cons_iff h]

/-- Two parts with a line break between them show one of some patterns without line breaks exactly
if one of them does. -/
theorem showsAny_break_iff {a b : String} {patterns : List String}
    (h : ∀ pattern ∈ patterns, '\n' ∉ pattern.toList) :
    ShowsAny (a ++ "\n" ++ b) patterns ↔ ShowsAny a patterns ∨ ShowsAny b patterns := by
  constructor
  · rintro ⟨pattern, hpattern, hshows⟩
    exact ((shows_break_iff (h pattern hpattern)).mp hshows).imp (⟨pattern, hpattern, ·⟩)
      (⟨pattern, hpattern, ·⟩)
  · rintro (⟨pattern, hpattern, hshows⟩ | ⟨pattern, hpattern, hshows⟩)
    · exact ⟨pattern, hpattern, (shows_break_iff (h pattern hpattern)).mpr (.inl hshows)⟩
    · exact ⟨pattern, hpattern, (shows_break_iff (h pattern hpattern)).mpr (.inr hshows)⟩

end TenantBroker.Text
