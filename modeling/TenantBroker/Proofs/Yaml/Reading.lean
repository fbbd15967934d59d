import TenantBroker.Proofs.Yaml.Folding
import TenantBroker.Proofs.Yaml.Quoting
import TenantBroker.Yaml

/-!
# Records of texts are read back

The document of a record tells every field with its text: a reader of YAML takes from it the record
that was written. The names have to be plain words; a text that is written plain has to be one that
is a text for certain.
-/

namespace TenantBroker.Yaml

/-! ## Lines of a field -/

/-- Whether every line break is followed by a gap, so that the next line belongs to the same field.
-/
def isContinued : List Char → Bool
  | [] => true
  | c :: rest => (c != '\n' || rest.head?.any isGap) && isContinued rest

/-- One line is continued. -/
theorem isContinued_of_not_mem {cs : List Char} (h : '\n' ∉ cs) : isContinued cs = true := by
  induction cs with
  | nil => rfl
  | cons c rest ih =>
    obtain ⟨hc, hrest⟩ : '\n' ≠ c ∧ '\n' ∉ rest := by simpa using h
    simp [isContinued, hc.symm, ih hrest]

/-- What is continued is so after what is continued. -/
theorem isContinued_append {cs ds : List Char} (hcs : isContinued cs = true)
    (hds : isContinued ds = true) : isContinued (cs ++ ds) = true := by
  induction cs with
  | nil => exact hds
  | cons c rest ih =>
    simp only [isContinued, Bool.and_eq_true, Bool.or_eq_true] at hcs
    simp only [List.cons_append, isContinued, ih hcs.2, Bool.and_true, Bool.or_eq_true]
    refine hcs.1.imp_right fun hgap ↦ ?_
    cases rest with
    | nil => cases hgap
    | cons d rest => exact hgap

/-- A line break before a gap is continued. -/
theorem isContinued_break {cs : List Char} (hgap : cs.head?.any isGap = true)
    (h : isContinued cs = true) : isContinued ('\n' :: cs) = true := by
  simp [isContinued, hgap, h]

/-- Line breaks and an indentation are continued. -/
theorem isContinued_breaks (n : Nat) {indent : Nat} (h : 0 < indent) :
    isContinued (List.replicate n '\n' ++ List.replicate indent ' ') = true := by
  induction n with
  | zero =>
    exact isContinued_of_not_mem fun hmem ↦ absurd (List.eq_of_mem_replicate hmem) (by decide)
  | succ n ih =>
    refine isContinued_break ?_ ih
    obtain ⟨indent, rfl⟩ := Nat.exists_eq_succ_of_ne_zero h.ne'
    cases n <;> rfl

/-- One line break and an indentation are continued. -/
theorem isContinued_lineBreak {indent : Nat} (h : 0 < indent) :
    isContinued (lineBreak indent) = true := isContinued_breaks 1 h

/-- Folded runs are continued. -/
theorem isContinued_foldRuns {rs : List (List Char)} (h : Apart rs) {indent : Nat}
    (hindent : 0 < indent) (isFirst : Bool) (column : Nat) :
    isContinued (foldRuns indent isFirst column rs) = true := by
  induction h generalizing isFirst column with
  | nil => rfl
  | @word run rest hne hsolid _ ih =>
    rw [foldRuns_word hne hsolid]
    refine isContinued_append (isContinued_of_not_mem fun hmem ↦ ?_) (ih _ _)
    exact absurd (hsolid _ hmem) (by decide)
  | @gap c n rest hgap _ _ ih =>
    rcases isGap_iff.mp hgap with rfl | rfl
    · obtain ⟨gap, next, hwritten, hfold⟩ := exists_foldRuns_spaces n indent isFirst column rest
      rw [hfold]
      refine isContinued_append ?_ (ih _ _)
      rcases hwritten with rfl | ⟨-, rfl⟩
      · exact isContinued_of_not_mem fun hmem ↦
          absurd (List.eq_of_mem_replicate hmem) (by decide)
      · exact isContinued_lineBreak hindent
    · rw [foldRuns_breaks]
      exact isContinued_append (isContinued_breaks (n + 2) hindent) (ih _ _)

/-- A continuation between double quotes is continued. -/
theorem isContinued_continuation {indent : Nat} (h : 0 < indent) (cs : List Char) :
    isContinued (continuation indent cs).1 = true := by
  have hmark : isContinued ('\\' :: lineBreak indent) = true := isContinued_lineBreak h
  unfold continuation
  split
  · exact isContinued_append hmark rfl
  · exact hmark

/-- A text between double quotes is continued. -/
theorem isContinued_foldDouble {indent : Nat} (h : 0 < indent) (isFirst afterEscape : Bool)
    (column : Nat) (cs : List Char) :
    isContinued (foldDouble indent isFirst afterEscape column cs) = true := by
  have hescape (c : Char) : isContinued (escape c) = true := by
    obtain ⟨spelling, hspelling, -, hline⟩ := exists_escape c
    rw [hspelling]
    exact (isContinued_of_not_mem hline : isContinued spelling = true)
  have hliteral {c : Char} {rest : List Char} (hc : ¬ isEscaped c = true)
      (hrest : isContinued rest = true) : isContinued (c :: rest) = true := by
    refine isContinued_append (isContinued_of_not_mem ?_ : isContinued [c] = true) hrest
    rintro hmem
    obtain rfl := List.mem_singleton.mp hmem
    exact hc (by decide)
  fun_induction foldDouble indent isFirst afterEscape column cs with
  | case1 => rfl
  | case2 isFirst afterEscape column c rest inside hc column' hlong mark next hmark ih =>
    obtain rfl : (continuation indent rest).1 = mark := congrArg Prod.fst hmark
    exact isContinued_append (isContinued_append (hescape c) (isContinued_continuation h _)) ih
  | case3 isFirst afterEscape column c rest inside hc column' hlong ih =>
    exact isContinued_append (hescape c) ih
  | case4 isFirst afterEscape column c rest inside hc hlong mark next hmark ih =>
    obtain rfl : (continuation indent (c :: rest)).1 = mark := congrArg Prod.fst hmark
    exact isContinued_append (isContinued_continuation h _) (hliteral hc ih)
  | case5 isFirst afterEscape column c rest inside hc hlong ih => exact hliteral hc ih

/-- A field that is continued is split off. -/
theorem splitFields_append {field rest : List Char} (hfield : isContinued field = true)
    (hrest : rest.head?.any isGap = false) :
    splitFields (field ++ '\n' :: rest) = field :: splitFields rest := by
  induction field with
  | nil => simp [splitFields, hrest]
  | cons c field ih =>
    simp only [isContinued, Bool.and_eq_true, Bool.or_eq_true, bne_iff_ne] at hfield
    have hsame : ¬ (c = '\n' ∧ ¬ (field ++ '\n' :: rest).head?.any isGap) := by
      rintro ⟨rfl, hgap⟩
      cases field with
      | nil => exact hgap rfl
      | cons d field => exact hgap (hfield.1.resolve_left (absurd rfl))
    rw [List.cons_append, splitFields, if_neg hsame, ih hfield.2]

/-! ## Texts -/

/-- A text in which every quote stands twice. -/
def doubled (cs : List Char) : List Char :=
  cs.flatMap fun c ↦ if c = '\'' then ['\'', '\''] else [c]

/-- A text of one line is clear. -/
theorem clear_of_not_mem {cs : List Char} (h : '\n' ∉ cs) : Clear cs := by
  have hspace {c : Char} (hc : c ∈ cs) (hgap : isGap c = true) : c = ' ' := by
    rcases isGap_iff.mp hgap with rfl | rfl
    · rfl
    · exact absurd hc h
  refine (List.pairwise_of_forall_mem_list fun a ha b hb ↦ ?_).isChain
  rintro ⟨hagap, hbgap, hab⟩
  rw [hspace ha hagap, hspace hb hbgap] at hab
  cases hab

/-- Doubling quotes keeps a text clear. -/
theorem clear_doubled {cs : List Char} (h : Clear cs) : Clear (doubled cs) := by
  induction cs with
  | nil => exact .nil
  | cons c rest ih =>
    obtain ⟨hc, hrest⟩ := List.isChain_cons.mp h
    have hhead : (doubled rest).head? = rest.head? := by
      cases rest with
      | nil => rfl
      | cons d rest =>
        rw [doubled, List.flatMap_cons]
        split <;> simp_all
    have hquote (d : Char) : ¬ Touch '\'' d := fun htouch ↦ absurd htouch.1 (by decide)
    rw [doubled, List.flatMap_cons]
    split
    · exact .cons_cons (hquote _) (List.isChain_cons.mpr ⟨fun d _ ↦ hquote d, ih hrest⟩)
    · exact List.isChain_cons.mpr ⟨fun d hd ↦ hc d (hhead ▸ hd), ih hrest⟩

/-- Doubled quotes are read as one. -/
theorem undouble_doubled (cs : List Char) : undouble false (doubled cs) = some cs := by
  induction cs with
  | nil => rfl
  | cons c rest ih =>
    rw [doubled, List.flatMap_cons]
    split
    · next hc =>
      rw [hc]
      exact congrArg (Option.map ('\'' :: ·)) ih
    · next hc =>
      rw [List.singleton_append, undouble, if_neg hc]
      exact congrArg (Option.map (c :: ·)) ih

/-- The first line of a text starts as the text does, if that is with no gap. -/
theorem head_foldRuns {cs : List Char} (h : Clear cs) (hhead : ∀ c ∈ cs.head?, isGap c = false)
    (indent : Nat) (isFirst : Bool) (column : Nat) :
    (foldRuns indent isFirst column (runs cs)).head? = cs.head? := by
  have hapart := apart_runs cs h
  have hflat := flatten_runs cs
  generalize runs cs = rs at hapart hflat ⊢
  subst hflat
  cases hapart with
  | nil => rfl
  | @word run rest hne hsolid _ =>
    rw [foldRuns_word hne hsolid, List.flatten_cons, List.head?_append_of_ne_nil _ hne,
      List.head?_append_of_ne_nil _ hne]
  | @gap c n rest hgap _ _ =>
    have hnot := hhead c (by simp [List.replicate_succ])
    rw [hgap] at hnot
    cases hnot

/-- A plain text has one line and starts with neither a gap nor a quote. -/
theorem start_of_isPlain {cs : List Char} (h : isPlain cs = true) :
    '\n' ∉ cs ∧ ∀ c ∈ cs.head?, isGap c = false ∧ c ≠ '"' ∧ c ≠ '\'' := by
  simp only [isPlain, Bool.and_eq_true, Bool.not_eq_true', List.all_eq_true, bne_iff_ne] at h
  obtain ⟨⟨⟨⟨hall, hstart⟩, -⟩, hspace⟩, -⟩ := h
  refine ⟨fun hmem ↦ (hall _ hmem).2 rfl, ?_⟩
  rintro c hc
  obtain ⟨rest, rfl⟩ : ∃ rest, cs = c :: rest := by
    cases cs with
    | nil => cases hc
    | cons d rest => exact ⟨rest, by rw [Option.some.inj hc]⟩
  have hindicator : indicators.contains c = false := by
    simp only [startsOtherwise, Bool.or_eq_false_iff] at hstart
    exact hstart.1.2
  refine ⟨?_, ?_, ?_⟩
  · have hne : c ≠ ' ' := fun heq ↦ hspace (congrArg some heq)
    have hline : c ≠ '\n' := (hall c (.head _)).2
    simp [isGap, hne, hline]
  · rintro rfl
    exact absurd hindicator (by decide)
  · rintro rfl
    exact absurd hindicator (by decide)

/-- A text is continued in each of its forms. -/
theorem isContinued_scalar {indent : Nat} (h : 0 < indent) (column : Nat) (s : String) :
    isContinued (scalar indent column s) = true := by
  have hquoted {quote : Char} {cs : List Char} (hquote : quote ≠ '\n')
      (hcs : isContinued cs = true) : isContinued (quote :: cs ++ [quote]) = true := by
    have hone : isContinued [quote] = true :=
      isContinued_of_not_mem fun hmem ↦ hquote (List.mem_singleton.mp hmem).symm
    exact isContinued_append (isContinued_append hone hcs) hone
  unfold scalar
  dsimp only
  split
  · next hplain =>
    exact isContinued_foldRuns (apart_runs _ (clear_of_not_mem (start_of_isPlain hplain).1)) h _ _
  · split
    · next hsingle =>
      have hclear : Clear s.toList := clear_of_touches (by simp_all [isSingle])
      exact hquoted (by decide) (isContinued_foldRuns (apart_runs _ (clear_doubled hclear)) h _ _)
    · exact hquoted (by decide) (isContinued_foldDouble h _ _ _ _)

/-- What starts with no quote is read as a plain text. -/
theorem readScalar?_plain {raw cs : List Char} (h : ∀ c ∈ raw.head?, c ≠ '"' ∧ c ≠ '\'')
    (hcs : unfold raw = cs) (hplain : isPlain cs = true) (htext : isText cs = true) :
    readScalar? raw = some cs := by
  unfold readScalar?
  split
  · exact absurd rfl (h '"' rfl).1
  · exact absurd rfl (h '\'' rfl).2
  · simp [hcs, hplain, htext]

/-- Doubling quotes adds no other character. -/
theorem mem_of_mem_doubled {cs : List Char} {c : Char} (h : c ∈ doubled cs) : c ∈ cs := by
  obtain ⟨d, hd, hc⟩ := List.mem_flatMap.mp h
  split at hc
  · next hquote =>
    obtain rfl : c = '\'' := by simpa using hc
    exact hquote ▸ hd
  · rwa [List.mem_singleton.mp hc]

/-- A text between single quotes is read back. -/
theorem readScalar?_single {cs : List Char} (h : isSingle cs = true) (indent column : Nat) :
    readScalar? ('\'' :: foldRuns indent true column (runs (doubled cs)) ++ ['\'']) = some cs := by
  simp only [isSingle, Bool.and_eq_true, Bool.not_eq_true', List.all_eq_true] at h
  have hunfold := unfold_foldRuns (clear_doubled (clear_of_touches h.2)) indent true column
  have hordinary : (doubled cs).all isOrdinary = true :=
    List.all_eq_true.mpr fun c hc ↦ h.1 c (mem_of_mem_doubled hc)
  simp only [List.cons_append, readScalar?, List.dropLast_concat, List.getLast?_concat, hunfold,
    hordinary, and_self, if_true, undouble_doubled]

/-- A text is read back in each of its forms. -/
theorem readScalar?_scalar {indent : Nat} (hindent : indent < bestWidth) (column : Nat) {s : String}
    (h : isPlain s.toList = true → isText s.toList = true) :
    readScalar? (scalar indent column s) = some s.toList := by
  unfold scalar
  dsimp only
  split
  · next hplain =>
    obtain ⟨hline, hstart⟩ := start_of_isPlain hplain
    have hclear := clear_of_not_mem hline
    refine readScalar?_plain ?_ (unfold_foldRuns hclear indent true column) hplain (h hplain)
    rw [head_foldRuns hclear fun c hc ↦ (hstart c hc).1]
    exact fun c hc ↦ (hstart c hc).2
  · split
    · next hsingle => exact readScalar?_single hsingle _ _
    · exact readDouble?_foldDouble hindent _ _ _ _

/-- A text is one for certain if neither a number nor another word starts with its first letter. -/
theorem isText_cons {c : Char} (hmark : (c.isDigit || "+-.~<=".toList.contains c) = false)
    (hword : ∀ word ∈ otherWords, word.toList.head? ≠ some (Text.foldAsciiChar c))
    (rest : List Char) : isText (c :: rest) = true := by
  have hnone : otherWords.contains (Text.foldAscii (String.ofList (c :: rest))) = false := by
    rw [← Bool.not_eq_true, List.contains_iff_mem]
    intro hmem
    exact hword _ hmem (by simp [Text.foldAscii])
  simp only [isText, List.head?_cons, Option.any_some, hmark, hnone, Bool.not_false, Bool.and_self]

/-! ## Records -/

/-- A field that is read as it was written: its name is a plain word, and its text is a text for
certain if it is written plain. -/
structure IsReadable (field : String × String) : Prop where
  word : isWord field.1.toList = true
  text : isPlain field.2.toList = true → isText field.2.toList = true

/-- A word with a text that is one for certain can be read. -/
theorem isReadable_of_isText {name text : String} (hname : isWord name.toList = true)
    (htext : isText text.toList = true) : IsReadable (name, text) := ⟨hname, fun _ ↦ htext⟩

/-- A record of texts as a value. -/
def textFields (record : List (String × String)) : List (String × Json) :=
  record.map fun field ↦ (field.1, .str field.2)

/-- A field on its lines. -/
def fieldLines (field : String × String) : List Char :=
  field.1.toList ++ ':' :: ' ' :: scalar 2 (field.1.length + 2) field.2

/-- The lines of a document. -/
def documentLines (record : List (String × String)) : List Char :=
  record.flatMap fun field ↦ fieldLines field ++ ['\n']

/-- A document is written field by field. -/
theorem toList_write {record : List (String × String)} (h : record ≠ []) :
    (write (textFields record)).toList = documentLines record := by
  have hfields (field : String × String) (rest : List (String × String)) :
      fields 0 (textFields (field :: rest)) ++ ['\n'] = documentLines (field :: rest) := by
    induction rest generalizing field with
    | nil => simp [documentLines, textFields, fields, fieldValue, inlineValue, fieldLines]
    | cons next rest ih =>
      rw [documentLines, List.flatMap_cons, ← documentLines, ← ih next]
      simp [textFields, fields, fieldValue, inlineValue, fieldLines, lineBreak]
  rw [write, String.toList_ofList]
  cases record with
  | nil => exact absurd rfl h
  | cons field rest => exact hfields field rest

namespace IsReadable

variable {field : String × String}

/-- A name is not empty. -/
theorem name_ne_nil (h : IsReadable field) : field.1.toList ≠ [] := by
  have hword := h.word
  simp only [isWord, Bool.and_eq_true, Bool.not_eq_true', List.isEmpty_eq_false_iff] at hword
  exact hword.1.1

/-- A name has neither colons nor gaps. -/
theorem letter (h : IsReadable field) {c : Char} (hc : c ∈ field.1.toList) :
    c ≠ ':' ∧ isGap c = false := by
  have hword := h.word
  simp only [isWord, Bool.and_eq_true, List.all_eq_true] at hword
  have hletter := hword.1.2 c hc
  constructor
  · rintro rfl
    exact absurd hletter (by decide)
  · rw [← Bool.not_eq_true]
    intro hgap
    rcases isGap_iff.mp hgap with rfl | rfl <;>
      exact absurd hletter (by decide)

/-- The lines of a field start with no gap. -/
theorem head_fieldLines (h : IsReadable field) (rest : List Char) :
    (fieldLines field ++ rest).head?.any isGap = false := by
  obtain ⟨c, name, hname⟩ := List.exists_cons_of_ne_nil h.name_ne_nil
  rw [fieldLines, hname]
  exact (h.letter (hname ▸ .head _)).2

/-- The lines of a field are continued. -/
theorem isContinued_fieldLines (h : IsReadable field) : isContinued (fieldLines field) = true := by
  have hname : isContinued field.1.toList = true :=
    isContinued_of_not_mem fun hmem ↦ absurd (h.letter hmem).2 (by decide)
  have htext : isContinued (scalar 2 (field.1.length + 2) field.2) = true :=
    isContinued_scalar (by decide) _ _
  exact isContinued_append hname htext

/-- A field is read back. -/
theorem readField?_fieldLines (h : IsReadable field) :
    readField? (fieldLines field) = some field := by
  have hname : (fieldLines field).takeWhile (· ≠ ':') = field.1.toList := by
    rw [fieldLines, List.takeWhile_append_of_pos]
    · simp
    · exact fun c hc ↦ decide_eq_true (h.letter hc).1
  have hvalue : readScalar? (scalar 2 (field.1.length + 2) field.2) = some field.2.toList :=
    readScalar?_scalar (by decide) _ h.text
  simp only [readField?, hname]
  simp only [fieldLines, List.drop_left, h.word, if_true, hvalue, Option.map_some,
    String.ofList_toList]

end IsReadable

/-- A document is split into its fields. -/
theorem splitFields_document {record : List (String × String)} (h : ∀ f ∈ record, IsReadable f) :
    splitFields (documentLines record) = record.map fieldLines := by
  induction record with
  | nil => rfl
  | cons field rest ih =>
    have hnext : (documentLines rest).head?.any isGap = false := by
      cases rest with
      | nil => rfl
      | cons next rest =>
        rw [documentLines, List.flatMap_cons, List.append_assoc]
        exact (h next (by simp)).head_fieldLines _
    rw [documentLines, List.flatMap_cons, List.append_assoc, List.singleton_append,
      ← documentLines, splitFields_append (h field (.head _)).isContinued_fieldLines hnext,
      ih fun f hf ↦ h f (.tail _ hf), List.map_cons]

/-- A record of texts is read back from its document. -/
theorem read?_write {record : List (String × String)} (hne : record ≠ [])
    (h : ∀ f ∈ record, IsReadable f) : read? (write (textFields record)) = some record := by
  rw [read?, toList_write hne, splitFields_document h]
  clear hne
  induction record with
  | nil => rfl
  | cons field rest ih =>
    rw [List.map_cons, List.mapM_cons, (h field (.head _)).readField?_fieldLines,
      ih fun f hf ↦ h f (.tail _ hf)]
    rfl

end TenantBroker.Yaml
