import Mathlib.Tactic.SplitIfs
import TenantBroker.Proofs.Json.Grammar
import TenantBroker.Proofs.Success

/-!
# Reading strings is their grammar

The text of a string is read up to its closing quote, and what is read spells the characters that
come out. An escaped unit is held back until the next escape shows whether the two make a pair.
-/

namespace TenantBroker.Json

/-! ## Blanks -/

variable {cs rest : List Char}

/-- Blanks in front are passed over. -/
theorem skipSpace_append {blanks : List Char} (h : IsBlanks blanks) (rest : List Char) :
    skipSpace (blanks ++ rest) = skipSpace rest := List.dropWhile_append_of_pos h

/-- A text that does not begin with a blank is left as it is. -/
theorem skipSpace_cons {c : Char} (h : isSpace c = false) (rest : List Char) :
    skipSpace (c :: rest) = c :: rest := by simp [skipSpace, h]

/-- What is passed over is blank. -/
theorem exists_blanks (cs : List Char) : ∃ blanks, IsBlanks blanks ∧ cs = blanks ++ skipSpace cs :=
  ⟨cs.takeWhile isSpace, List.all_eq_true.mp List.all_takeWhile,
    (List.takeWhile_append_dropWhile).symm⟩

/-! ## Strings -/

variable {start back digits text after : List Char} {unit : Nat} {character : Char}

/-- The four digits of a unit are read if more text follows. -/
theorem fourDigits_append (h : SpellsUnit digits unit) (hrest : rest ≠ []) :
    fourDigits (digits ++ rest) = some unit := by
  obtain ⟨hlength, hnumber⟩ := h
  match digits, hlength with
  | [a, b, c, d], _ =>
    obtain ⟨x, xs, rfl⟩ := List.exists_cons_of_ne_nil hrest
    exact hnumber

/-- Four digits that are read are those of a unit. -/
theorem spellsUnit_of_fourDigits (h : fourDigits cs = some unit) :
    ∃ digits rest, SpellsUnit digits unit ∧ cs = digits ++ rest := by
  unfold fourDigits at h
  split at h
  · rename_i a b c d x xs
    exact ⟨[a, b, c, d], x :: xs, ⟨rfl, h⟩, rfl⟩
  · cases h

/-- Where a string has a backslash and a `u`, the four digits of a unit follow. -/
theorem SpellsChars.exists_unit (h : SpellsChars ('\\' :: 'u' :: text) cs) :
    ∃ digits unit rest, SpellsUnit digits unit ∧ text = digits ++ rest := by
  cases h with
  | plain hquote hback => exact absurd rfl hback
  | short h => cases h
  | unit h => exact ⟨_, _, _, h, rfl⟩
  | pair h => exact ⟨_, _, _, h, rfl⟩

/-- The digits of a unit are dropped. -/
theorem SpellsUnit.drop_four (h : SpellsUnit digits unit) (rest : List Char) :
    (digits ++ rest).drop 4 = rest := List.drop_left' h.1

/-- A second escape that follows the first one stands before the closing quote. -/
theorem eq_escape_of_append {more : List Char} (h : text ++ '"' :: after = '\\' :: 'u' :: more) :
    ∃ tail, text = '\\' :: 'u' :: tail ∧ more = tail ++ '"' :: after := by
  cases text with
  | nil => cases h
  | cons c text =>
    cases text with
    | nil => cases (List.cons.inj (List.cons.inj h).2).1
    | cons d tail =>
      simp only [List.cons_append, List.cons.injEq] at h
      obtain ⟨rfl, rfl, rfl⟩ := h
      exact ⟨tail, rfl, rfl⟩

/-- The escape of a single unit is read as its character. -/
theorem escape_unit (h : SpellsUnit digits unit) (halone : IsHigh unit → ¬ StartsLow text)
    (htext : SpellsChars text cs) :
    escape start back ('u' :: (digits ++ (text ++ '"' :: after))) =
      .ok (Text.scalarOrReplacement unit, 5) := by
  rw [escape, fourDigits_append h (by simp), h.drop_four]
  dsimp only
  split_ifs with hhigh
  · split
    · rename_i more hmore
      -- A second escape follows; it has its four digits and is not the second unit of the pair.
      obtain ⟨tail, rfl, rfl⟩ := eq_escape_of_append hmore
      obtain ⟨digits', unit', tail, hunit', rfl⟩ := htext.exists_unit
      have hlow : ¬ (0xDC00 ≤ unit' ∧ unit' ≤ 0xDFFF) := fun hlow ↦
        halone hhigh ⟨digits', unit', tail, hunit', hlow, rfl⟩
      have hfour : fourDigits (digits' ++ (tail ++ '"' :: after)) = some unit' :=
        fourDigits_append hunit' (by simp)
      simp [List.append_assoc, hfour, hlow]
    · rfl
  · rfl

/-- The escape of a surrogate pair is read as its character. -/
theorem escape_pair {first second : List Char} {high low : Nat} (hfirst : SpellsUnit first high)
    (hhigh : IsHigh high) (hsecond : SpellsUnit second low) (hlow : IsLow low) (hrest : rest ≠ []) :
    escape start back ('u' :: (first ++ '\\' :: 'u' :: (second ++ rest))) =
      .ok (joined high low, 11) := by
  have hlength : ¬ (second ++ rest).length < 5 := by
    have := List.length_pos_iff.mpr hrest
    rw [List.length_append, hsecond.1]
    omega
  rw [escape, fourDigits_append hfirst (by simp), hfirst.drop_four]
  simp only [if_neg hlength, fourDigits_append hsecond hrest]
  exact (if_pos hhigh).trans (if_pos hlow)

/-- The escape of one letter is read as its character. -/
theorem escape_short {c : Char} (h : shortEscape? c = some character) (rest : List Char) :
    escape start back (c :: rest) = .ok (character, 1) := by
  have hne : c ≠ 'u' := by
    rintro rfl
    cases h
  rw [escape.eq_def]
  split
  · contradiction
  · rename_i heq
    exact absurd (List.cons.inj heq).1 hne
  · rename_i heq
    obtain ⟨rfl, rfl⟩ := List.cons.inj heq
    rw [h]

/-- Characters that are skipped are not read. -/
theorem readChars_skip (start more tail : List Char) :
    readChars start more.length (more ++ tail) = readChars start 0 tail := by
  induction more with
  | nil => rfl
  | cons c more ih => rw [List.cons_append, List.length_cons, readChars, ih]

/-- The text of a string is read up to the closing quote. -/
theorem SpellsChars.read (h : SpellsChars text cs) (start after : List Char) :
    readChars start 0 (text ++ '"' :: after) = .ok (cs, after) := by
  induction h with
  | nil => rfl
  | plain hquote hback hcontrol rest ih =>
    rw [List.cons_append, readChars, if_neg hquote, if_neg hback, if_neg (by omega), ih]
    rfl
  | short hshort rest ih =>
    rename_i c character text cs
    have hskip := readChars_skip start [c] (text ++ '"' :: after)
    rw [List.cons_append, List.cons_append, readChars, if_neg (by decide), if_pos rfl,
      escape_short hshort]
    simp only [List.length_singleton, List.singleton_append] at hskip
    simp only [hskip, ih]
    rfl
  | unit hunit halone rest ih =>
    rename_i digits text cs unit
    have hskip := readChars_skip start ('u' :: digits) (text ++ '"' :: after)
    rw [List.length_cons, hunit.1] at hskip
    rw [List.cons_append, List.cons_append, List.append_assoc, readChars, if_neg (by decide),
      if_pos rfl, escape_unit hunit halone rest]
    simp only [List.cons_append] at hskip
    simp only [hskip, ih]
    rfl
  | pair hfirst hhigh hsecond hlow rest ih =>
    rename_i first second text cs high low
    have hskip := readChars_skip start ('u' :: (first ++ '\\' :: 'u' :: second))
      (text ++ '"' :: after)
    simp only [List.length_cons, List.length_append, hfirst.1, hsecond.1] at hskip
    simp only [List.cons_append, List.append_assoc] at hskip ⊢
    rw [readChars, if_neg (by decide), if_pos rfl,
      escape_pair hfirst hhigh hsecond hlow (by simp)]
    simp only [hskip, ih]
    rfl

/-- A text after a backslash begins with an escape of some length: it stands for its character in
every string that goes on after it. -/
def Escapes (rest : List Char) (character : Char) (length : Nat) : Prop :=
  ∃ more tail, rest = more ++ tail ∧ more.length = length ∧
    ∀ text cs after, tail = text ++ '"' :: after → SpellsChars text cs →
      SpellsChars ('\\' :: (more ++ text)) (character :: cs)

/-- A unit stands for itself unless the reader finds the other one of its pair. -/
theorem escapes_unit (h : SpellsUnit digits unit)
    (hnext : IsHigh unit → ∀ more, rest = '\\' :: 'u' :: more →
      more.length < 5 ∨ ∃ second, fourDigits more = some second ∧ ¬ IsLow second) :
    Escapes ('u' :: (digits ++ rest)) (Text.scalarOrReplacement unit) 5 := by
  refine ⟨'u' :: digits, rest, rfl, by simp [h.1], fun text cs after hrest htext ↦
    .unit h ?_ htext⟩
  rintro hhigh ⟨digits', low, tail, hdigits', hlow, rfl⟩
  rcases hnext hhigh (digits' ++ (tail ++ '"' :: after)) (by simpa using hrest) with
    hshort | ⟨second, hsecond, hnot⟩
  · simp only [List.length_append, List.length_cons, hdigits'.1] at hshort
    omega
  · rw [fourDigits_append hdigits' (by simp)] at hsecond
    obtain rfl := Option.some.inj hsecond
    exact hnot hlow

/-- An escape that is read is one. -/
theorem escapes_of_escape {length : Nat} (h : escape start back rest = .ok (character, length)) :
    Escapes rest character length := by
  revert h
  fun_cases escape start back rest with
  | case3 digits first hfirst lone hhigh more hmore hshort =>
    intro h
    obtain ⟨rfl, rfl⟩ := Prod.mk.inj (Except.ok.inj h)
    obtain ⟨digits, tail, hdigits, rfl⟩ := spellsUnit_of_fourDigits hfirst
    rw [hdigits.drop_four] at hmore
    refine escapes_unit hdigits fun _ more' hmore' ↦ .inl ?_
    obtain rfl : more = more' := by simpa using hmore.symm.trans hmore'
    exact hshort
  | case5 digits high hfirst hhigh more hmore hlong low hsecond hlow =>
    intro h
    obtain ⟨rfl, rfl⟩ := Prod.mk.inj (Except.ok.inj h)
    obtain ⟨first, tail, hdigits, rfl⟩ := spellsUnit_of_fourDigits hfirst
    rw [hdigits.drop_four] at hmore
    subst hmore
    obtain ⟨second, rest, hdigits', rfl⟩ := spellsUnit_of_fourDigits hsecond
    refine ⟨'u' :: (first ++ '\\' :: 'u' :: second), rest, by simp, ?_,
      fun text cs after _ htext ↦ ?_⟩
    · simp [hdigits.1, hdigits'.1]
    · simpa [joined] using SpellsChars.pair hdigits hhigh hdigits' hlow htext
  | case6 digits first hfirst lone hhigh more hmore hlong second hsecond hlow =>
    intro h
    obtain ⟨rfl, rfl⟩ := Prod.mk.inj (Except.ok.inj h)
    obtain ⟨digits, tail, hdigits, rfl⟩ := spellsUnit_of_fourDigits hfirst
    rw [hdigits.drop_four] at hmore
    refine escapes_unit hdigits fun _ more' hmore' ↦ .inr ⟨second, ?_, hlow⟩
    obtain rfl : more = more' := by simpa using hmore.symm.trans hmore'
    exact hsecond
  | case7 digits first hfirst lone hhigh hnone =>
    intro h
    obtain ⟨rfl, rfl⟩ := Prod.mk.inj (Except.ok.inj h)
    obtain ⟨digits, tail, hdigits, rfl⟩ := spellsUnit_of_fourDigits hfirst
    rw [hdigits.drop_four] at hnone
    exact escapes_unit hdigits fun _ more hmore ↦ (hnone more hmore).elim
  | case8 digits first hfirst lone hhigh =>
    intro h
    obtain ⟨rfl, rfl⟩ := Prod.mk.inj (Except.ok.inj h)
    obtain ⟨digits, tail, hdigits, rfl⟩ := spellsUnit_of_fourDigits hfirst
    exact escapes_unit hdigits fun h ↦ absurd h hhigh
  | case9 c tail hne character hshort =>
    intro h
    obtain ⟨rfl, rfl⟩ := Prod.mk.inj (Except.ok.inj h)
    exact ⟨[c], tail, rfl, rfl, fun _ _ _ _ htext ↦ .short hshort htext⟩
  -- All other texts are refused.
  | _ => nofun

/-- What is read as the characters of a string spells them, up to the closing quote. The induction
is on the length of the text. -/
theorem spellsChars_of_readChars {cs chars after : List Char}
    (h : readChars start 0 cs = .ok (chars, after)) :
    ∃ text, cs = text ++ '"' :: after ∧ SpellsChars text chars := by
  induction hlength : cs.length using Nat.strongRecOn generalizing cs chars with
  | ind length ih =>
    cases cs with
    | nil => cases h
    | cons c rest =>
      subst hlength
      rw [readChars] at h
      split_ifs at h with hquote hback hcontrol
      · cases h
        exact ⟨[], by rw [hquote]; rfl, .nil⟩
      · subst hback
        cases hescape : escape start ('\\' :: rest) rest with
        | error stop => simp [hescape] at h
        | ok found =>
          obtain ⟨character, length⟩ := found
          simp only [hescape, map_eq_ok_iff] at h
          obtain ⟨⟨cs, tail⟩, hrest, heq⟩ := h
          obtain ⟨rfl, rfl⟩ := Prod.mk.inj heq
          obtain ⟨more, tail', rfl, rfl, hspells⟩ := escapes_of_escape hescape
          rw [readChars_skip] at hrest
          have hshorter : tail'.length < ('\\' :: (more ++ tail')).length := by
            rw [List.length_cons, List.length_append]
            omega
          obtain ⟨text, rfl, htext⟩ := ih _ hshorter hrest rfl
          exact ⟨_, by simp, hspells text cs _ rfl htext⟩
      · cases h
      · rw [map_eq_ok_iff] at h
        obtain ⟨⟨cs, tail⟩, hrest, heq⟩ := h
        obtain ⟨rfl, rfl⟩ := Prod.mk.inj heq
        obtain ⟨text, rfl, htext⟩ := ih _ (by simp) hrest rfl
        exact ⟨c :: text, rfl, .plain hquote hback (by omega) htext⟩

/-- A string is read up to its closing quote. -/
theorem readString_eq_ok_iff {cs after : List Char} {s : String} :
    readString start cs = .ok (s, after) ↔
      ∃ text, SpellsString ('"' :: text) s ∧ cs = text ++ after := by
  rw [readString, map_eq_ok_iff]
  constructor
  · rintro ⟨⟨chars, tail⟩, hchars, heq⟩
    obtain ⟨rfl, rfl⟩ := Prod.mk.inj heq
    obtain ⟨text, rfl, htext⟩ := spellsChars_of_readChars hchars
    exact ⟨text ++ ['"'], .quoted htext, by simp⟩
  · rintro ⟨text, hstring, rfl⟩
    generalize hquoted : '"' :: text = quoted at hstring
    obtain ⟨hchars⟩ := hstring
    obtain rfl := (List.cons.inj hquoted).2
    exact ⟨_, by simpa using hchars.read start after, rfl⟩

end TenantBroker.Json
