import Mathlib.Data.List.TakeWhile
import TenantBroker.Proofs.Json.Numbers
import TenantBroker.Proofs.Json.Strings

/-!
# Reading is the grammar

A text is read as a document of a value exactly if the grammar says so. Each reader is held to its
part of the grammar in both directions: what it reads is spelled by the text it takes off, and a
text that spells something is taken off whole, whatever may follow it.
-/

namespace TenantBroker.Json

variable {cs text rest : List Char} {value : Json} {fuel : Nat}

/-! ## Words and numbers -/

/-- A number begins with a digit or with a minus sign before one. -/
theorem SpellsNumber.exists_digit {number : Number} (h : SpellsNumber text number) :
    ∃ negative c tail, c.isDigit = true ∧ text = minus negative ++ c :: tail := by
  cases h with
  | int hwhole =>
    obtain ⟨c, tail, rfl⟩ := List.exists_cons_of_ne_nil hwhole.1.1
    exact ⟨_, c, tail, hwhole.1.2 c List.mem_cons_self, rfl⟩
  | real hwhole =>
    obtain ⟨c, tail, rfl⟩ := List.exists_cons_of_ne_nil hwhole.1.1
    exact ⟨_, c, _, hwhole.1.2 c List.mem_cons_self, rfl⟩

/-- A digit is no character that is not one. -/
theorem ne_of_isDigit {c d : Char} (hc : c.isDigit = true) (hd : d.isDigit = false) : d ≠ c := by
  rintro rfl
  exact Bool.false_ne_true (hd.symm.trans hc)

/-- No word begins as a number does. -/
theorem find?_words_of_number {number : Number} (h : SpellsNumber text number)
    (rest : List Char) : (words.find? fun word ↦ word.1.isPrefixOf (text ++ rest)) = none := by
  obtain ⟨negative, c, tail, hc, rfl⟩ := h.exists_digit
  have hne {d : Char} (hd : d.isDigit = false) : d ≠ c := ne_of_isDigit hc hd
  cases negative <;>
    simp [words, minus, hne (d := 'n') rfl, hne (d := 't') rfl, hne (d := 'f') rfl,
      hne (d := 'N') rfl, hne (d := 'I') rfl, hne (d := '-') rfl]

/-- A word or a number is read up to a boundary. -/
theorem readPlain_number {number : Number} (h : SpellsNumber text number)
    (hrest : IsBoundary rest) : readPlain (text ++ rest) = .ok (.num number, rest) := by
  rw [readPlain, find?_words_of_number h, h.read hrest]

/-- A word is read, whatever follows. -/
theorem readPlain_word (h : (text, value) ∈ words) (rest : List Char) :
    readPlain (text ++ rest) = .ok (value, rest) := by
  simp only [words, List.mem_cons, Prod.mk.injEq, List.not_mem_nil, or_false] at h
  rcases h with ⟨rfl, rfl⟩ | ⟨rfl, rfl⟩ | ⟨rfl, rfl⟩ | ⟨rfl, rfl⟩ | ⟨rfl, rfl⟩ | ⟨rfl, rfl⟩ <;>
    rfl

/-- What is read as a word or a number is one. -/
theorem spells_of_readPlain (h : readPlain cs = .ok (value, rest)) :
    ∃ text, Spells text value ∧ cs = text ++ rest := by
  unfold readPlain at h
  split at h
  · rename_i word found hfind
    obtain ⟨rfl, rfl⟩ := Prod.mk.inj (Except.ok.inj h)
    have hfound := List.find?_some hfind
    obtain ⟨tail, rfl⟩ := List.isPrefixOf_iff_prefix.mp hfound
    exact ⟨word, .word (List.mem_of_find?_eq_some hfind), by simp⟩
  · obtain ⟨text, number, rfl, hnumber, rfl⟩ := spellsNumber_of_readNumber h
    exact ⟨text, .number hnumber, rfl⟩

/-! ## The first character of a value -/

/-- A value other than a string, an array or a record is a word or a number. -/
theorem readValue_plain {c : Char} (hquote : c ≠ '"') (hbrace : c ≠ '\x7b') (hbracket : c ≠ '[')
    (tail : List Char) : readValue (fuel + 1) (c :: tail) = readPlain (c :: tail) := by
  rw [readValue.eq_def]
  split
  · contradiction
  · rename_i heq
    cases heq
    split <;> simp_all

/-- A value begins neither with a blank nor with a closing bracket. -/
theorem Spells.head (h : Spells text value) :
    ∃ c tail, isSpace c = false ∧ c ≠ ']' ∧ text = c :: tail := by
  cases h with
  | word h =>
    simp only [words, List.mem_cons, Prod.mk.injEq, List.not_mem_nil, or_false] at h
    rcases h with ⟨rfl, -⟩ | ⟨rfl, -⟩ | ⟨rfl, -⟩ | ⟨rfl, -⟩ | ⟨rfl, -⟩ | ⟨rfl, -⟩ <;>
      exact ⟨_, _, rfl, by decide, rfl⟩
  | number h =>
    obtain ⟨negative, c, tail, hc, rfl⟩ := h.exists_digit
    cases negative with
    | true => exact ⟨_, _, rfl, by decide, rfl⟩
    | false =>
      have hne {d : Char} (hd : d.isDigit = false) : c ≠ d := (ne_of_isDigit hc hd).symm
      refine ⟨c, tail, ?_, hne rfl, rfl⟩
      simp [isSpace, hne (d := ' ') rfl, hne (d := '\t') rfl, hne (d := '\n') rfl,
        hne (d := '\r') rfl]
  | string h =>
    obtain ⟨h⟩ := h
    exact ⟨_, _, rfl, by decide, rfl⟩
  | noItems | items => exact ⟨_, _, rfl, by decide, rfl⟩
  | record h => cases h <;> exact ⟨_, _, rfl, by decide, rfl⟩

/-- A member begins with the quote of its name. -/
theorem SpellsMember.head {member : String × Json} (h : SpellsMember text member) :
    ∃ tail, text = '"' :: tail := by
  obtain ⟨⟨h⟩⟩ := h
  exact ⟨_, rfl⟩

/-- Items begin neither with a blank nor with a closing bracket. -/
theorem SpellsItems.head {items : List Json} (h : SpellsItems text items) :
    ∃ c tail, isSpace c = false ∧ c ≠ ']' ∧ text = c :: tail := by
  cases h with
  | one h => exact h.head
  | cons h =>
    obtain ⟨c, tail, hspace, hbracket, rfl⟩ := h.head
    exact ⟨c, _, hspace, hbracket, rfl⟩

/-- Members begin with a quote. -/
theorem SpellsMembers.head {members : List (String × Json)} (h : SpellsMembers text members) :
    ∃ tail, text = '"' :: tail := by
  cases h with
  | one h => exact h.head
  | cons h =>
    obtain ⟨tail, rfl⟩ := h.head
    exact ⟨_, rfl⟩

/-! ## Boundaries -/

/-- A comma or a closing bracket is a boundary. -/
theorem isBoundary_cons {c : Char} (h : c = ',' ∨ c = ']' ∨ c = '\x7d') (rest : List Char) :
    IsBoundary (c :: rest) := by
  rintro d ⟨⟩
  exact .inr h

/-- The end of the text is a boundary. -/
theorem isBoundary_nil : IsBoundary [] := nofun

/-- Blanks before a boundary are one. -/
theorem IsBoundary.append {blanks : List Char} (hrest : IsBoundary rest) (h : IsBlanks blanks) :
    IsBoundary (blanks ++ rest) := by
  cases blanks with
  | nil => exact hrest
  | cons c blanks =>
    rintro d ⟨⟩
    exact .inl (h c List.mem_cons_self)

/-- Blanks before a character that is none are passed over. -/
theorem skipSpace_blanks {blanks : List Char} (h : IsBlanks blanks) {c : Char}
    (hc : isSpace c = false) (rest : List Char) : skipSpace (blanks ++ c :: rest) = c :: rest := by
  rw [skipSpace_append h, skipSpace_cons hc]

/-! ## What is spelled is read -/

/-- With some fuel the text of every value is read, up to a boundary. -/
def ReadsValues (fuel : Nat) : Prop :=
  ∀ {text : List Char} {value : Json} {rest : List Char}, Spells text value →
    2 * text.length ≤ fuel → IsBoundary rest → readValue fuel (text ++ rest) = .ok (value, rest)

/-- With some fuel items are read, up to the closing bracket. -/
def ReadsItems (fuel : Nat) : Prop :=
  ∀ {text after : List Char} {items : List Json} (rest : List Char), SpellsItems text items →
    IsBlanks after → 2 * text.length + 1 ≤ fuel →
      readItems fuel (text ++ (after ++ ']' :: rest)) = .ok (items, rest)

/-- With some fuel members are read, up to the closing brace. -/
def ReadsMembers (fuel : Nat) : Prop :=
  ∀ {text after : List Char} {members : List (String × Json)} (rest : List Char)
    (fields : List (String × Json)), SpellsMembers text members → IsBlanks after →
      2 * text.length + 1 ≤ fuel →
        readMembers fuel fields (text ++ (after ++ '\x7d' :: rest)) =
          .ok (setFields fields members, rest)

/-- Items are read if each one is. -/
theorem readsItems_succ (hvalues : ReadsValues fuel) (hitems : ReadsItems fuel) :
    ReadsItems (fuel + 1) := by
  intro text after items rest h hafter hfuel
  cases h with
  | one h =>
    have hrest := (isBoundary_cons (.inr (.inl rfl)) rest).append hafter
    rw [readItems, hvalues h (by omega) hrest]
    simp only [skipSpace_blanks hafter (c := ']') rfl]
  | cons h hbefore hgap hmore =>
    rename_i text before gap more value values
    simp only [List.length_append, List.length_cons] at hfuel
    have hrest := (isBoundary_cons (.inl rfl) (gap ++ (more ++ (after ++ ']' :: rest)))).append
      hbefore
    have hvalue := hvalues h (by omega) hrest
    have hmores := hitems rest hmore hafter (by omega)
    obtain ⟨c, tail, hc, -, rfl⟩ := hmore.head
    simp only [List.append_assoc, List.cons_append] at hvalue hmores ⊢
    rw [readItems, hvalue]
    simp only [skipSpace_blanks hbefore (c := ',') rfl, skipSpace_blanks hgap hc, hmores]
    rfl

/-- A member is read before a boundary, and with the character behind it the reader goes on. -/
theorem readMembers_member {member : String × Json} (hvalues : ReadsValues fuel)
    (h : SpellsMember text member) (hfuel : 2 * text.length ≤ fuel) {c : Char}
    (hc : c = ',' ∨ c = '\x7d') {after : List Char} (hafter : IsBlanks after)
    (fields : List (String × Json)) (rest : List Char) :
    readMembers (fuel + 1) fields (text ++ (after ++ c :: rest)) =
      if c = '\x7d' then .ok (setField fields member.1 member.2, rest)
      else readMembers fuel (setField fields member.1 member.2) (skipSpace rest) := by
  have hboundary : IsBoundary (after ++ c :: rest) :=
    (isBoundary_cons (by rcases hc with rfl | rfl <;> simp) rest).append hafter
  obtain ⟨hname, hbefore, hgap, h⟩ := h
  obtain ⟨hchars⟩ := hname
  rename_i before gap text value name cs
  simp only [List.length_append, List.length_cons] at hfuel
  have hvalue := hvalues h (by omega) hboundary
  have hread (start : List Char) :
      readString start (name ++ '"' :: (before ++ ':' :: (gap ++ (text ++ (after ++ c :: rest))))) =
        .ok (String.ofList cs, before ++ ':' :: (gap ++ (text ++ (after ++ c :: rest)))) :=
    readString_eq_ok_iff.mpr ⟨name ++ ['"'], .quoted hchars, by simp⟩
  obtain ⟨d, tail, hd, -, rfl⟩ := h.head
  have hspace : isSpace c = false := by rcases hc with rfl | rfl <;> rfl
  simp only [List.cons_append, List.append_assoc, List.nil_append] at hvalue hread ⊢
  rw [readMembers, hread]
  simp only [skipSpace_blanks hbefore (c := ':') rfl, skipSpace_blanks hgap hd, hvalue,
    skipSpace_blanks hafter hspace]
  rcases hc with rfl | rfl <;> rfl

/-- Members are read if each value is. -/
theorem readsMembers_succ (hvalues : ReadsValues fuel) (hmembers : ReadsMembers fuel) :
    ReadsMembers (fuel + 1) := by
  intro text after members rest fields h hafter hfuel
  cases h with
  | one h => exact readMembers_member hvalues h (by omega) (.inr rfl) hafter fields rest
  | cons h hbefore hgap hmore =>
    rename_i text before gap more member members
    simp only [List.length_append, List.length_cons] at hfuel
    have hread := readMembers_member hvalues h (by omega) (.inl rfl) hbefore fields
      (gap ++ (more ++ (after ++ '\x7d' :: rest)))
    have hmores := hmembers rest (setField fields member.1 member.2) hmore hafter
      (by omega)
    obtain ⟨tail, rfl⟩ := hmore.head
    simp only [List.cons_append, List.append_assoc] at hread hmores ⊢
    rw [hread, if_neg (by decide), skipSpace_blanks hgap rfl, hmores]
    rfl

/-- A value is read if what it consists of is. -/
theorem readsValues_succ (hitems : ReadsItems fuel) (hmembers : ReadsMembers fuel) :
    ReadsValues (fuel + 1) := by
  intro text value rest h hfuel hrest
  cases h with
  | word h =>
    have hplain := readPlain_word h rest
    simp only [words, List.mem_cons, Prod.mk.injEq, List.not_mem_nil, or_false] at h
    rcases h with ⟨rfl, -⟩ | ⟨rfl, -⟩ | ⟨rfl, -⟩ | ⟨rfl, -⟩ | ⟨rfl, -⟩ | ⟨rfl, -⟩ <;>
      exact (readValue_plain (by decide) (by decide) (by decide) _).trans hplain
  | number h =>
    have hplain := readPlain_number h hrest
    obtain ⟨negative, c, tail, hc, rfl⟩ := h.exists_digit
    have hne {d : Char} (hd : d.isDigit = false) : c ≠ d := (ne_of_isDigit hc hd).symm
    cases negative with
    | true => exact (readValue_plain (by decide) (by decide) (by decide) _).trans hplain
    | false => exact (readValue_plain (hne rfl) (hne rfl) (hne rfl) _).trans hplain
  | string h =>
    obtain ⟨h⟩ := h
    rename_i text cs
    have hread : readString ('"' :: (text ++ '"' :: rest)) (text ++ '"' :: rest) =
        .ok (String.ofList cs, rest) := readString_eq_ok_iff.mpr ⟨text ++ ['"'], .quoted h, by simp⟩
    simp only [List.cons_append, List.append_assoc, List.nil_append]
    rw [readValue, hread]
    rfl
  | noItems h =>
    simp only [List.cons_append, List.append_assoc, List.nil_append]
    rw [readValue, skipSpace_blanks h rfl]
    rfl
  | items hbefore hafter h =>
    rename_i before text after items
    simp only [List.length_append, List.length_cons] at hfuel
    have hread := hitems rest h hafter (by omega)
    obtain ⟨c, tail, hc, hbracket, rfl⟩ := h.head
    simp only [List.cons_append, List.append_assoc, List.nil_append] at hread ⊢
    rw [readValue, skipSpace_blanks hbefore hc]
    split
    · rename_i heq
      exact absurd (List.cons.inj heq).1 hbracket
    · rw [hread]
      rfl
  | record h =>
    cases h with
    | none h =>
      simp only [List.cons_append, List.append_assoc, List.nil_append]
      rw [readValue, skipSpace_blanks h rfl]
      rfl
    | some hbefore hafter h =>
      rename_i before text after members
      simp only [List.length_append, List.length_cons] at hfuel
      have hread := hmembers rest [] h hafter (by omega)
      obtain ⟨tail, rfl⟩ := h.head
      simp only [List.cons_append, List.append_assoc, List.nil_append] at hread ⊢
      rw [readValue, skipSpace_blanks hbefore rfl]
      split
      · rename_i heq
        cases (List.cons.inj heq).1
      · rw [hread]
        rfl

/-- With any fuel the readers read what is spelled, if the fuel suffices for its length. -/
theorem reads_spelled (fuel : Nat) :
    ReadsValues fuel ∧ ReadsItems fuel ∧ ReadsMembers fuel := by
  induction fuel with
  | zero =>
    refine ⟨fun h hfuel _ ↦ ?_, fun _ _ _ hfuel ↦ absurd hfuel (by omega),
      fun _ _ _ _ hfuel ↦ absurd hfuel (by omega)⟩
    obtain ⟨c, tail, -, -, rfl⟩ := h.head
    exact absurd hfuel (by simp)
  | succ fuel ih =>
    obtain ⟨hvalues, hitems, hmembers⟩ := ih
    exact ⟨readsValues_succ hitems hmembers, readsItems_succ hvalues hitems,
      readsMembers_succ hvalues hmembers⟩

/-! ## What is read is spelled -/

/-- With some fuel every value that is read is spelled by the text that was taken off. -/
def FindsValues (fuel : Nat) : Prop :=
  ∀ {cs rest : List Char} {value : Json}, readValue fuel cs = .ok (value, rest) →
    ∃ text, Spells text value ∧ cs = text ++ rest

/-- With some fuel all items that are read are spelled up to the closing bracket. -/
def FindsItems (fuel : Nat) : Prop :=
  ∀ {cs rest : List Char} {items : List Json}, readItems fuel cs = .ok (items, rest) →
    ∃ text after, SpellsItems text items ∧ IsBlanks after ∧ cs = text ++ (after ++ ']' :: rest)

/-- With some fuel all members that are read are spelled up to the closing brace. -/
def FindsMembers (fuel : Nat) : Prop :=
  ∀ {cs rest : List Char} {fields found : List (String × Json)},
    readMembers fuel fields cs = .ok (found, rest) →
      ∃ text members after, SpellsMembers text members ∧ IsBlanks after ∧
        found = setFields fields members ∧ cs = text ++ (after ++ '\x7d' :: rest)

/-- Blanks before the text that is left after them. -/
theorem exists_blanks_of_eq {cs tail : List Char} (h : skipSpace cs = tail) :
    ∃ blanks, IsBlanks blanks ∧ cs = blanks ++ tail := h ▸ exists_blanks cs

/-- Items that are read are spelled if each one is. -/
theorem findsItems_succ (hvalues : FindsValues fuel) (hitems : FindsItems fuel) :
    FindsItems (fuel + 1) := by
  intro cs rest items h
  rw [readItems] at h
  split at h
  · cases h
  · rename_i value afterValue hvalue
    obtain ⟨text, htext, rfl⟩ := hvalues hvalue
    split at h
    · rename_i after hafter
      obtain ⟨rfl, rfl⟩ := Prod.mk.inj (Except.ok.inj h)
      obtain ⟨blanks, hblanks, rfl⟩ := exists_blanks_of_eq hafter
      exact ⟨text, blanks, .one htext, hblanks, rfl⟩
    · rename_i after hafter
      obtain ⟨before, hbefore, rfl⟩ := exists_blanks_of_eq hafter
      obtain ⟨⟨values, tail⟩, hmore, heq⟩ := map_eq_ok_iff.mp h
      obtain ⟨rfl, rfl⟩ := Prod.mk.inj heq
      obtain ⟨gap, hgap, hskip⟩ := exists_blanks after
      obtain ⟨more, blanks, hitems, hblanks, hmore⟩ := hitems hmore
      rw [hmore] at hskip
      subst hskip
      exact ⟨_, blanks, .cons htext hbefore hgap hitems, hblanks, by simp⟩
    · cases h

/-- Members that are read are spelled if each value is. -/
theorem findsMembers_succ (hvalues : FindsValues fuel) (hmembers : FindsMembers fuel) :
    FindsMembers (fuel + 1) := by
  intro cs rest fields found h
  rw [readMembers.eq_def] at h
  dsimp only at h
  split at h
  · rename_i quoted
    split at h
    · cases h
    · rename_i name afterName hstring
      obtain ⟨text, hname, rfl⟩ := readString_eq_ok_iff.mp hstring
      split at h
      · rename_i afterColon hcolon
        obtain ⟨before, hbefore, rfl⟩ := exists_blanks_of_eq hcolon
        obtain ⟨gap, hgap, hgap'⟩ := exists_blanks afterColon
        split at h
        · cases h
        · rename_i value afterValue hvalue
          obtain ⟨text, htext, hskip⟩ := hvalues hvalue
          rw [hskip] at hgap'
          subst hgap'
          have hmember := SpellsMember.colon hname hbefore hgap htext
          split at h
          · rename_i after hafter
            obtain ⟨rfl, rfl⟩ := Prod.mk.inj (Except.ok.inj h)
            obtain ⟨blanks, hblanks, rfl⟩ := exists_blanks_of_eq hafter
            exact ⟨_, _, blanks, .one hmember, hblanks, rfl, by simp⟩
          · rename_i after hafter
            obtain ⟨blanks, hblanks, rfl⟩ := exists_blanks_of_eq hafter
            obtain ⟨more, members, last, hmore, hlast, rfl, hskip'⟩ := hmembers h
            obtain ⟨gap', hgap', hmore'⟩ := exists_blanks after
            rw [hskip'] at hmore'
            subst hmore'
            exact ⟨_, _, last, .cons hmember hblanks hgap' hmore, hlast, rfl, by simp⟩
          · cases h
      · cases h
  · cases h

/-- A value that is read is spelled if what it consists of is. -/
theorem findsValues_succ (hitems : FindsItems fuel) (hmembers : FindsMembers fuel) :
    FindsValues (fuel + 1) := by
  intro cs rest value h
  rw [readValue.eq_def] at h
  dsimp only at h
  split at h
  · obtain ⟨⟨s, after⟩, hstring, heq⟩ := map_eq_ok_iff.mp h
    obtain ⟨rfl, rfl⟩ := Prod.mk.inj heq
    obtain ⟨text, htext, rfl⟩ := readString_eq_ok_iff.mp hstring
    exact ⟨_, .string htext, rfl⟩
  · rename_i inside
    split at h
    · rename_i after hafter
      obtain ⟨rfl, rfl⟩ := Prod.mk.inj (Except.ok.inj h)
      obtain ⟨blanks, hblanks, rfl⟩ := exists_blanks_of_eq hafter
      exact ⟨_, .record (.none hblanks), by simp⟩
    · obtain ⟨⟨fields, after⟩, hread, heq⟩ := map_eq_ok_iff.mp h
      obtain ⟨rfl, rfl⟩ := Prod.mk.inj heq
      obtain ⟨before, hbefore, hskip⟩ := exists_blanks inside
      obtain ⟨text, members, blanks, hmembers, hblanks, rfl, hinside⟩ := hmembers hread
      rw [hinside] at hskip
      subst hskip
      exact ⟨_, .record (.some hbefore hblanks hmembers), by simp⟩
  · rename_i inside
    split at h
    · rename_i after hafter
      obtain ⟨rfl, rfl⟩ := Prod.mk.inj (Except.ok.inj h)
      obtain ⟨blanks, hblanks, rfl⟩ := exists_blanks_of_eq hafter
      exact ⟨_, .noItems hblanks, by simp⟩
    · obtain ⟨⟨items, after⟩, hread, heq⟩ := map_eq_ok_iff.mp h
      obtain ⟨rfl, rfl⟩ := Prod.mk.inj heq
      obtain ⟨before, hbefore, hskip⟩ := exists_blanks inside
      obtain ⟨text, blanks, hitems, hblanks, hinside⟩ := hitems hread
      rw [hinside] at hskip
      subst hskip
      exact ⟨_, .items hbefore hblanks hitems, by simp⟩
  · exact spells_of_readPlain h

/-- With any fuel the readers read nothing that is not spelled. -/
theorem finds_spelled (fuel : Nat) :
    FindsValues fuel ∧ FindsItems fuel ∧ FindsMembers fuel := by
  induction fuel with
  | zero => exact ⟨nofun, nofun, nofun⟩
  | succ fuel ih =>
    obtain ⟨hvalues, hitems, hmembers⟩ := ih
    exact ⟨findsValues_succ hitems hmembers, findsItems_succ hvalues hitems,
      findsMembers_succ hvalues hmembers⟩

/-! ## Documents -/

/-- A text is read as a document of a value exactly if it is one. -/
theorem readDocument_eq_ok_iff : readDocument cs = .ok value ↔ IsDocument cs value := by
  rw [readDocument]
  constructor
  · intro h
    split at h
    · cases h
    · rename_i found rest hvalue
      split at h
      · rename_i hskip
        obtain rfl := Except.ok.inj h
        obtain ⟨before, hbefore, hcs⟩ := exists_blanks cs
        obtain ⟨after, hafter, hrest⟩ := exists_blanks_of_eq hskip
        obtain ⟨text, htext, htail⟩ := (finds_spelled _).1 hvalue
        refine ⟨before, text, after, hbefore, hafter, htext, ?_⟩
        rw [hcs, htail, hrest, List.append_nil]
      · cases h
  · rintro ⟨before, text, after, hbefore, hafter, htext, rfl⟩
    have hboundary : IsBoundary after := by simpa using isBoundary_nil.append hafter
    have hread := (reads_spelled (2 * (before ++ (text ++ after)).length + 2)).1 htext
      (by simp only [List.length_append]; omega) hboundary
    obtain ⟨c, tail, hc, -, rfl⟩ := htext.head
    have hskip : skipSpace (before ++ (c :: tail ++ after)) = c :: tail ++ after :=
      skipSpace_blanks hbefore hc (tail ++ after)
    have hend : skipSpace after = [] := List.dropWhile_eq_nil_iff.mpr hafter
    rw [hskip, hread]
    simp only [hend]

end TenantBroker.Json
