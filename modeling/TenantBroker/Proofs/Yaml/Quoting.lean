import TenantBroker.Proofs.Text.Hex
import TenantBroker.Proofs.Yaml.Reader

/-!
# Texts between double quotes are read back

Every escape is read as its character, and a continuation as nothing, so a text between double
quotes is read as the text that was written, wherever its lines were broken.
-/

namespace TenantBroker.Yaml

/-! ## Escapes -/

/-- A letter is read as the character that it is short for. -/
theorem readEscape?_letter {c letter : Char} (h : (c, letter) ∈ escapeLetters) (rest : List Char) :
    readEscape? (letter :: rest) = some ([c], 1) := by
  simp only [escapeLetters, List.mem_cons, List.not_mem_nil, Prod.mk.injEq, or_false] at h
  rcases h with h | h | h | h | h | h | h | h | h | h | h | h | h | h | h <;>
    (obtain ⟨rfl, rfl⟩ := h; rfl)

/-- A code is read as its character. -/
theorem readCode?_capitalHex {c : Char} {width : Nat} (h : c.toNat < Nat.pow 16 width)
    (rest : List Char) :
    readCode? width (Text.capitalHex width c.toNat ++ rest) = some ([c], width + 1) := by
  have hlength : (Text.capitalHex width c.toNat).length = width := Text.length_hexWith _ _ _
  have hvalid : c.toNat.isValidChar := c.valid
  have hvalue : Text.hexNumber? (Text.capitalHex width c.toNat) = some c.toNat :=
    Text.hexNumber?_hexWith Text.areHexDigits_capital width c.toNat h
  simp only [readCode?, List.take_left' hlength, hvalue, hlength, hvalid, and_self, if_true,
    Char.ofNat_toNat]

/-- The escape of a character is a backslash and what is read as that character, on one line. -/
theorem exists_escape (c : Char) : ∃ spelling, escape c = '\\' :: spelling ∧
    (∀ rest, readEscape? (spelling ++ rest) = some ([c], spelling.length)) ∧ '\n' ∉ spelling := by
  have hcode {letter : Char} {width : Nat} (hletter : letter ≠ '\n')
      (hread : ∀ rest, readEscape? (letter :: rest) = readCode? width rest)
      (h : c.toNat < Nat.pow 16 width) :
      (∀ rest, readEscape? (letter :: Text.capitalHex width c.toNat ++ rest) =
        some ([c], (letter :: Text.capitalHex width c.toNat).length)) ∧
        '\n' ∉ letter :: Text.capitalHex width c.toNat := by
    refine ⟨fun rest ↦ ?_, ?_⟩
    · rw [List.cons_append, hread, readCode?_capitalHex h, List.length_cons, Text.capitalHex,
        Text.length_hexWith]
    · rw [List.mem_cons, not_or]
      exact ⟨hletter.symm, fun hmem ↦
        absurd (Text.mem_of_mem_hexWith (by decide) hmem) (by decide)⟩
  unfold escape
  split
  · next letter hletter =>
    obtain ⟨before, after, htable, -⟩ := List.lookup_eq_some_iff.mp hletter
    have hmem : (c, letter) ∈ escapeLetters := htable ▸ by simp
    have hline : ∀ entry ∈ escapeLetters, entry.2 ≠ '\n' := by decide
    exact ⟨[letter], rfl, readEscape?_letter hmem, by simpa using (hline _ hmem).symm⟩
  · split
    · exact ⟨_, rfl, hcode (by decide) (fun _ ↦ rfl) (show c.toNat < 0x100 by omega)⟩
    · split
      · exact ⟨_, rfl, hcode (by decide) (fun _ ↦ rfl) (show c.toNat < 0x10000 by omega)⟩
      · have hvalid : c.toNat.isValidChar := c.valid
        exact ⟨_, rfl, hcode (by decide) (fun _ ↦ rfl) (show c.toNat < 0x100000000 by omega)⟩

/-! ## Between double quotes -/

/-- What belongs to an escape is passed. -/
theorem readDouble?_skip (cs rest : List Char) :
    readDouble? cs.length (cs ++ rest) = readDouble? 0 rest := by
  induction cs with
  | nil => rfl
  | cons c cs ih => exact ih

/-- An escape is read as its character. -/
theorem readDouble?_escape (c : Char) (rest : List Char) :
    readDouble? 0 (escape c ++ rest) = (readDouble? 0 rest).map (c :: ·) := by
  obtain ⟨spelling, hescape, hread, -⟩ := exists_escape c
  rw [hescape, List.cons_append, readDouble?, if_neg (by decide), if_pos rfl]
  simp only [hread, readDouble?_skip, List.singleton_append]

/-- A character that is not escaped is read as it stands. -/
theorem readDouble?_literal {c : Char} (h : isEscaped c = false) (rest : List Char) :
    readDouble? 0 (c :: rest) = (readDouble? 0 rest).map (c :: ·) := by
  simp only [isEscaped, Bool.or_eq_false_iff, Bool.not_eq_false', Bool.and_eq_true,
    decide_eq_true_eq, beq_eq_false_iff_ne] at h
  rw [readDouble?, if_neg h.1.1, if_neg h.1.2, if_pos h.2]

/-- The escape of a space is read as a space. -/
theorem readDouble?_space (rest : List Char) :
    readDouble? 0 ('\\' :: ' ' :: rest) = readDouble? 0 (' ' :: rest) := by
  rfl

/-- A line break after a backslash is read as nothing, and so are the spaces that the next line
starts with. -/
theorem readDouble?_lineBreak (indent : Nat) {rest : List Char} (h : rest.head? ≠ some ' ') :
    readDouble? 0 ('\\' :: lineBreak indent ++ rest) = readDouble? 0 rest := by
  have hspaces : (List.replicate indent ' ' ++ rest).takeWhile (· == ' ') =
      List.replicate indent ' ' := by
    cases rest with
    | nil => simp
    | cons c rest =>
      have hc : c ≠ ' ' := fun hc ↦ h (congrArg some hc)
      simp [hc]
  have hread : readEscape? (lineBreak indent ++ rest) = some ([], (lineBreak indent).length) := by
    simp only [lineBreak, List.cons_append, readEscape?, if_true, hspaces, List.length_cons]
  rw [List.cons_append, readDouble?, if_neg (by decide), if_pos rfl]
  simp only [hread, readDouble?_skip, List.nil_append, Option.map_id']

/-- A continuation is read as nothing if it marks a space exactly where one follows. -/
theorem readDouble?_continuation (indent : Nat) {cs rest : List Char}
    (h : rest.head? = some ' ' ↔ cs.head? = some ' ') :
    readDouble? 0 ((continuation indent cs).1 ++ rest) = readDouble? 0 rest := by
  unfold continuation
  split
  · next hspace =>
    obtain ⟨rest, rfl⟩ : ∃ tail, rest = ' ' :: tail := by
      cases rest with
      | nil => exact nomatch h.mpr hspace
      | cons c rest =>
        obtain rfl := Option.some.inj (h.mpr hspace)
        exact ⟨rest, rfl⟩
    rw [List.append_assoc]
    exact (readDouble?_lineBreak indent (by simp)).trans (readDouble?_space rest)
  · next hspace => exact readDouble?_lineBreak indent (mt h.mp hspace)

/-- On a short line a text starts with a space only if it does. -/
theorem head_foldDouble {column : Nat} (h : column ≤ bestWidth) (indent : Nat)
    (isFirst afterEscape : Bool) (cs : List Char) :
    (foldDouble indent isFirst afterEscape column cs ++ ['"']).head? = some ' ' ↔
      cs.head? = some ' ' := by
  cases cs with
  | nil => simp [foldDouble]
  | cons c rest =>
    have hshort : ¬ bestWidth < column := by omega
    obtain ⟨spelling, hescape, -⟩ := exists_escape c
    cases hc : isEscaped c with
    | true =>
      have hspace : c ≠ ' ' := by
        rintro rfl
        exact absurd hc (by decide)
      simp only [foldDouble, hc, if_true]
      split <;> simp [hescape, hspace]
    | false => simp [foldDouble, hc, hshort]

/-- A continuation leaves a short line. -/
theorem column_continuation {indent : Nat} (h : indent < bestWidth) (cs : List Char) :
    (continuation indent cs).2 ≤ bestWidth := by
  unfold continuation
  split <;> simp only <;> omega

/-- What is written between double quotes is read back. -/
theorem readDouble?_foldDouble {indent : Nat} (h : indent < bestWidth) (isFirst afterEscape : Bool)
    (column : Nat) (cs : List Char) :
    readDouble? 0 (foldDouble indent isFirst afterEscape column cs ++ ['"']) = some cs := by
  fun_induction foldDouble indent isFirst afterEscape column cs with
  | case1 => rfl
  | case2 isFirst afterEscape column c rest inside hc column' hlong mark next hmark ih =>
    obtain rfl : (continuation indent rest).1 = mark := congrArg Prod.fst hmark
    obtain rfl : (continuation indent rest).2 = next := congrArg Prod.snd hmark
    rw [List.append_assoc, List.append_assoc, readDouble?_escape, readDouble?_continuation indent
      (head_foldDouble (column_continuation h rest) _ _ _ _), ih]
    rfl
  | case3 isFirst afterEscape column c rest inside hc column' hlong ih =>
    rw [List.append_assoc, readDouble?_escape, ih]
    rfl
  | case4 isFirst afterEscape column c rest inside hc hlong mark next hmark ih =>
    obtain rfl : (continuation indent (c :: rest)).1 = mark := congrArg Prod.fst hmark
    rw [List.append_assoc, List.cons_append, readDouble?_continuation indent (by rfl),
      readDouble?_literal (by simpa using hc), ih]
    rfl
  | case5 isFirst afterEscape column c rest inside hc hlong ih =>
    rw [List.cons_append, readDouble?_literal (by simpa using hc), ih]
    rfl

end TenantBroker.Yaml
