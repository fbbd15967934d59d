import Mathlib.Tactic.SplitIfs
import TenantBroker.Json.Writer
import TenantBroker.Proofs.Json.Grammar
import TenantBroker.Proofs.Number.Decimal
import TenantBroker.Proofs.Text.Hex

/-!
# What is written is JSON

The text of a value spells a value with the same texts in the same places. Texts are kept exactly,
with surrogate pairs for the characters past U+FFFF; a number is written as one, a whole number only
if it is not too long to be read.
-/

namespace TenantBroker.Json

/-! ## Strings -/

/-- The digits of a written unit spell it. -/
theorem spellsUnit_hex {unit : Nat} (h : unit < 0x10000) : SpellsUnit (Text.hex 4 unit) unit :=
  ⟨Text.length_hexWith _ 4 unit, Text.hexNumber?_hexWith Text.areHexDigits_small 4 unit h⟩

variable {text cs : List Char}

/-- A character below the surrogates or above them is no surrogate. -/
theorem scalarOrReplacement_toNat (c : Char) : Text.scalarOrReplacement c.toNat = c := by
  have hvalid : c.toNat.isValidChar := c.valid
  rw [Text.scalarOrReplacement, if_neg (by omega), Char.ofNat_toNat]

/-- A character past U+FFFF is joined from the two units it is written as. -/
theorem joined_units {c : Char} (h : 0x10000 ≤ c.toNat) :
    joined (0xD800 + (c.toNat - 0x10000) / 0x400) (0xDC00 + (c.toNat - 0x10000) % 0x400) = c := by
  have hcode : 0x10000 + (0xD800 + (c.toNat - 0x10000) / 0x400 - 0xD800) * 0x400 +
      (0xDC00 + (c.toNat - 0x10000) % 0x400 - 0xDC00) = c.toNat := by omega
  rw [joined, hcode, Char.ofNat_toNat]

/-- A character is written as a text that spells it, whatever follows. -/
theorem SpellsChars.written (h : SpellsChars text cs) (c : Char) :
    SpellsChars (writtenChar c ++ text) (c :: cs) := by
  have hvalid : c.toNat.isValidChar := c.valid
  unfold writtenChar
  split_ifs with hquote hn hr ht hf hb hprint hsmall
  · refine .short (if_pos ?_) h
    rcases hquote with rfl | rfl <;> decide
  · subst hn
    exact .short rfl h
  · subst hr
    exact .short rfl h
  · subst ht
    exact .short rfl h
  · subst hf
    exact .short rfl h
  · subst hb
    exact .short rfl h
  · rw [not_or] at hquote
    exact .plain hquote.1 hquote.2 (by omega) h
  · have hunit := SpellsChars.unit (spellsUnit_hex hsmall) (fun hhigh ↦ ?_) h
    · rwa [scalarOrReplacement_toNat] at hunit
    · unfold IsHigh at hhigh
      omega
  · have hhigh : 0xD800 + (c.toNat - 0x10000) / 0x400 < 0x10000 := by omega
    have hlow : 0xDC00 + (c.toNat - 0x10000) % 0x400 < 0x10000 := by omega
    have hpair := SpellsChars.pair (spellsUnit_hex hhigh) ⟨by omega, by omega⟩
      (spellsUnit_hex hlow) ⟨by omega, by omega⟩ h
    rw [joined_units (by omega)] at hpair
    simpa [unitEscape] using hpair

/-- The characters of a string are written as a text that spells them. -/
theorem spellsChars_flatMap_writtenChar (cs : List Char) :
    SpellsChars (cs.flatMap writtenChar) cs := by
  induction cs with
  | nil => exact .nil
  | cons c cs ih =>
    rw [List.flatMap_cons]
    exact ih.written c

/-- A string is written as a text that spells it. -/
theorem spellsString_written (s : String) : SpellsString (writtenString s) s := by
  have hquoted := SpellsString.quoted (spellsChars_flatMap_writtenChar s.toList)
  rwa [String.ofList_toList] at hquoted

/-! ## Numbers -/

variable {negative : Bool} {digits : List Char}

/-- The digits of a number stand before a point. -/
theorem isWhole_digits (n : Nat) : IsWhole (Number.digits n) := by
  refine ⟨⟨Nat.toDigits_ne_nil, fun c ↦ Number.isDigit_of_mem_digits⟩, fun hzero ↦ ?_⟩
  by_cases hn : n = 0
  · rw [hn]
    rfl
  · exact absurd hzero (Number.head?_digits_ne_zero hn)

/-- A whole number is short enough to be read. -/
def IsShort (value : Int) : Prop := (Number.digits value.natAbs).length ≤ Number.maxDigits

/-- A whole number that is not too long is written as a text that spells it. -/
theorem spellsNumber_int {value : Int} (h : IsShort value) :
    SpellsNumber (toString value).toList (.int value) := by
  cases value with
  | ofNat n =>
    have htext : (toString (Int.ofNat n)).toList = minus false ++ Number.digits n :=
      Nat.toList_repr
    have hvalue : Int.ofNat n = signed false (Number.ofDigits (Number.digits n)) :=
      congrArg Int.ofNat (Number.ofDigits_digits n).symm
    rw [htext, hvalue]
    exact .int (isWhole_digits n) h
  | negSucc n =>
    have htext : (toString (Int.negSucc n)).toList = minus true ++ Number.digits (n + 1) := by
      change ("-" ++ (n + 1).repr).toList = _
      rw [String.toList_append, Nat.toList_repr]
      rfl
    have hvalue : Int.negSucc n = signed true (Number.ofDigits (Number.digits (n + 1))) := by
      rw [Number.ofDigits_digits]
      rfl
    rw [htext, hvalue]
    exact .int (isWhole_digits (n + 1)) h

/-- A text spells a number with a fraction or an exponent. -/
def SpellsReal (text : List Char) : Prop := ∃ x, SpellsNumber text (.real x)

/-- Digits with a point and more digits after it are a number. -/
theorem spellsReal_point (negative : Bool) {whole fraction : List Char} (hwhole : IsWhole whole)
    (hfraction : IsDigits fraction) :
    SpellsReal (minus negative ++ (whole ++ '.' :: fraction)) := by
  have hnumber : SpellsNumber (minus negative ++ (whole ++ ('.' :: fraction ++ []))) _ :=
    .real hwhole (.point hfraction) .none nofun
  rw [List.append_nil] at hnumber
  exact ⟨_, hnumber⟩

/-- Zeros are digits. -/
theorem isDigit_of_mem_zeros {count : Nat} {c : Char} (h : c ∈ List.replicate count '0') :
    c.isDigit = true := by
  rw [List.eq_of_mem_replicate h]
  rfl

/-- A zero is a number before a point. -/
theorem isWhole_zero : IsWhole ['0'] := isWhole_digits 0

/-- More digits after those before a point, unless these are a lone zero. -/
theorem IsWhole.append {more : List Char} (h : IsWhole digits)
    (hmore : ∀ c ∈ more, c.isDigit = true) (hzero : digits.head? = some '0' → more = []) :
    IsWhole (digits ++ more) := by
  obtain ⟨c, tail, rfl⟩ := List.exists_cons_of_ne_nil h.1.1
  refine ⟨⟨nofun, fun d hd ↦ ?_⟩, fun hhead ↦ ?_⟩
  · exact (List.mem_append.mp hd).elim (h.1.2 d) (hmore d)
  · rw [hzero hhead, List.append_nil, h.2 hhead]

/-- Significant digits with a point in their place are a number. -/
theorem spellsReal_positional (h : IsWhole digits) {point : Int}
    (hzero : digits.head? = some '0' → point = 1) :
    SpellsReal (minus negative ++ Binary64.positional digits point) := by
  unfold Binary64.positional
  split_ifs with hbefore hbehind
  · -- All digits stand behind the point, after a zero.
    have hfraction : IsDigits (List.replicate (-point).toNat '0' ++ digits) :=
      ⟨by simp [h.1.1], fun c hc ↦
        (List.mem_append.mp hc).elim isDigit_of_mem_zeros (h.1.2 c)⟩
    simpa using spellsReal_point negative isWhole_zero hfraction
  · -- All digits stand before the point, with zeros between.
    have hwhole : IsWhole (digits ++ List.replicate (point.toNat - digits.length) '0') := by
      refine h.append (fun c ↦ isDigit_of_mem_zeros) fun hhead ↦ ?_
      rw [hzero hhead, h.2 hhead]
      rfl
    simpa using spellsReal_point negative hwhole isWhole_zero.1
  · have hlength : point.toNat < digits.length := by omega
    have hwhole : IsWhole (digits.take point.toNat) := by
      refine ⟨⟨?_, fun c hc ↦ h.1.2 c (List.mem_of_mem_take hc)⟩, fun hhead ↦ ?_⟩
      · simp only [ne_eq, List.take_eq_nil_iff, not_or]
        exact ⟨by omega, h.1.1⟩
      · rw [List.head?_take, if_neg (by omega)] at hhead
        rw [h.2 hhead, hzero hhead] at hlength
        exact absurd hlength (by decide)
    have hfraction : IsDigits (digits.drop point.toNat) :=
      ⟨by simpa using hlength, fun c hc ↦ h.1.2 c (List.mem_of_mem_drop hc)⟩
    exact spellsReal_point negative hwhole hfraction

/-- The exponent of a number as it is written: a sign and at least two digits. -/
theorem spellsExponent_written (power : Int) :
    let size := Nat.toDigits 10 power.natAbs
    ∃ exponent, SpellsExponent
      ('e' :: (if power < 0 then '-' else '+') :: (if size.length < 2 then '0' :: size else size))
      (some exponent) := by
  intro size
  have hsize : IsDigits size := (isWhole_digits power.natAbs).1
  have hdigits : IsDigits (if size.length < 2 then '0' :: size else size) := by
    split_ifs
    · exact ⟨nofun, List.forall_mem_cons.mpr ⟨rfl, hsize.2⟩⟩
    · exact hsize
  by_cases hnegative : power < 0
  · rw [if_pos hnegative]
    exact ⟨_, .letter (.inl rfl) .minus hdigits⟩
  · rw [if_neg hnegative]
    exact ⟨_, .letter (.inl rfl) .plus hdigits⟩

/-- Significant digits with an exponent are a number. -/
theorem spellsReal_scientific (h : IsWhole digits) (power : Int) :
    SpellsReal (minus negative ++ Binary64.scientific digits power) := by
  obtain ⟨exponent, hexponent⟩ := spellsExponent_written power
  match digits, h with
  | [d], h => exact ⟨_, .real h .none hexponent nofun⟩
  | d :: e :: rest, h =>
    have hfirst : IsWhole [d] :=
      ⟨⟨nofun, fun c hc ↦ h.1.2 c (by simp_all)⟩, fun hd ↦ by simpa using hd⟩
    have hrest : IsDigits (e :: rest) := ⟨nofun, fun c hc ↦ h.1.2 c (List.mem_cons_of_mem _ hc)⟩
    exact ⟨_, .real hfirst (.point hrest) hexponent nofun⟩
  | [], h => exact absurd rfl h.1.1

/-- The first digits of a number other than zero do not begin with a zero. -/
theorem head?_ne_zero_of_begins {n : Nat} (hn : n ≠ 0) (h : digits <+: Number.digits n) :
    digits.head? ≠ some '0' := by
  cases digits with
  | nil => nofun
  | cons c tail =>
    obtain ⟨rest, hrest⟩ := h
    have hhead := Number.head?_digits_ne_zero hn
    rwa [← hrest] at hhead

/-- The significant digits of a decimal are a whole number; a zero among them stands alone, before
the point. -/
theorem isWhole_significantDigits (d : Binary64.Decimal) :
    IsWhole d.significantDigits.1 ∧
      (d.significantDigits.1.head? = some '0' → d.significantDigits.2 = 1) := by
  unfold Binary64.Decimal.significantDigits
  dsimp only
  split_ifs with hkept
  · exact ⟨isWhole_zero, fun _ ↦ rfl⟩
  · have hkeeps : ((Nat.toDigits 10 d.digits).reverse.dropWhile (· = '0')).reverse <+:
        Number.digits d.digits := by
      rw [← List.reverse_suffix, List.reverse_reverse]
      exact List.dropWhile_suffix _
    have hsome : d.digits ≠ 0 := by
      intro h
      rw [h] at hkept
      exact hkept rfl
    have hhead := head?_ne_zero_of_begins hsome hkeeps
    exact ⟨⟨⟨hkept, fun c hc ↦ Number.isDigit_of_mem_digits (hkeeps.subset hc)⟩,
      fun h ↦ absurd h hhead⟩, fun h ↦ absurd h hhead⟩

/-- The text of a finite number is a number. -/
theorem spellsReal_finite (negative : Bool) (significand : Nat) (exponent : Int) :
    SpellsReal (Binary64.finite negative significand exponent).text.toList := by
  have hdigits := isWhole_significantDigits (Binary64.shortestDecimal significand exponent)
  have hmagnitude : SpellsReal (minus negative ++ Binary64.magnitudeText significand exponent) := by
    unfold Binary64.magnitudeText
    dsimp only
    split_ifs
    · exact spellsReal_positional hdigits.1 hdigits.2
    · exact spellsReal_scientific hdigits.1 _
  rw [Binary64.text, String.toList_ofList]
  exact hmagnitude

/-- A number that is not too long is written as a text that spells a number. -/
theorem spells_writtenNumber (number : Number) (h : ∀ value, number = .int value → IsShort value) :
    ∃ number', Spells (writtenNumber number).toList (.num number') := by
  match number, h with
  | .int value, h => exact ⟨_, .number (spellsNumber_int (h value rfl))⟩
  | .real .nan, _ => exact ⟨.real .nan, .word (List.mem_of_getElem? (i := 3) rfl)⟩
  | .real (.infinite true), _ => exact ⟨_, .word (List.mem_of_getElem? (i := 5) rfl)⟩
  | .real (.infinite false), _ => exact ⟨_, .word (List.mem_of_getElem? (i := 4) rfl)⟩
  | .real (.finite negative significand exponent), _ =>
    obtain ⟨x, hx⟩ := spellsReal_finite negative significand exponent
    exact ⟨.real x, .number hx⟩

/-! ## Values -/

mutual

/-- The whole numbers in a value. -/
def integers : Json → List Int
  | .num (.int value) => [value]
  | .arr items => integersOfItems items
  | .obj fields => integersOfFields fields
  | _ => []

/-- The whole numbers in the items of an array. -/
def integersOfItems : List Json → List Int
  | [] => []
  | value :: rest => integers value ++ integersOfItems rest

/-- The whole numbers in the members of a record. -/
def integersOfFields : List (String × Json) → List Int
  | [] => []
  | (_, value) :: rest => integers value ++ integersOfFields rest

end

/-- The names of some fields, each with its text if it is one. -/
def textsOf (fields : List (String × Json)) : List (String × Option String) :=
  fields.map fun field ↦ (field.1, field.2.text?)

/-- No blank is a run of blanks. -/
theorem isBlanks_nil : IsBlanks [] := List.forall_mem_nil _

/-- One blank after a comma or a colon. -/
theorem isBlanks_space : IsBlanks [' '] := List.forall_mem_singleton.mpr rfl

mutual

/-- A value is written as a text that spells a value with the same text. -/
theorem exists_spells_written : ∀ value : Json, (∀ i ∈ value.integers, IsShort i) →
    ∃ value', Spells value.written value' ∧ value'.text? = value.text?
  | .null, _ => ⟨.null, .word (List.mem_of_getElem? (i := 0) rfl), rfl⟩
  | .bool true, _ => ⟨.bool true, .word (List.mem_of_getElem? (i := 1) rfl), rfl⟩
  | .bool false, _ => ⟨.bool false, .word (List.mem_of_getElem? (i := 2) rfl), rfl⟩
  | .num number, h => by
    obtain ⟨number', hspells⟩ := spells_writtenNumber number fun value hvalue ↦
      h value (by rw [hvalue]; exact List.mem_singleton_self value)
    exact ⟨_, hspells, rfl⟩
  | .str s, _ => ⟨.str s, .string (spellsString_written s), rfl⟩
  | .arr [], _ => ⟨.arr [], .noItems isBlanks_nil, rfl⟩
  | .arr (value :: rest), h => by
    obtain ⟨items, hspells⟩ := exists_spellsItems_written (value :: rest) h nofun
    exact ⟨.arr items, .items isBlanks_nil isBlanks_nil hspells, rfl⟩
  | .obj fields, h => by
    obtain ⟨members, hspells, -⟩ := exists_spellsRecord_written fields h
    exact ⟨_, .record hspells, rfl⟩

/-- Items are written as a text that spells items. -/
theorem exists_spellsItems_written : ∀ values : List Json,
    (∀ i ∈ integersOfItems values, IsShort i) → values ≠ [] →
    ∃ items, SpellsItems (writtenItems values) items
  | [], _, hsome => absurd rfl hsome
  | [value], h, _ => by
    obtain ⟨value', hvalue, -⟩ := exists_spells_written value
      fun i hi ↦ h i (List.mem_append_left _ hi)
    exact ⟨_, .one hvalue⟩
  | value :: next :: rest, h, _ => by
    obtain ⟨value', hvalue, -⟩ := exists_spells_written value
      fun i hi ↦ h i (List.mem_append_left _ hi)
    obtain ⟨items, hitems⟩ := exists_spellsItems_written (next :: rest)
      (fun i hi ↦ h i (List.mem_append_right _ hi)) nofun
    exact ⟨_, .cons hvalue isBlanks_nil isBlanks_space hitems⟩

/-- A record is written as a text that spells a record with the same texts. -/
theorem exists_spellsRecord_written : ∀ fields : List (String × Json),
    (∀ i ∈ integersOfFields fields, IsShort i) →
    ∃ members, SpellsRecord (written (.obj fields)) members ∧ textsOf members = textsOf fields
  | [], _ => ⟨[], .none isBlanks_nil, rfl⟩
  | field :: rest, h => by
    obtain ⟨members, hspells, htexts⟩ := exists_spellsMembers_written (field :: rest) h nofun
    exact ⟨members, .some isBlanks_nil isBlanks_nil hspells, htexts⟩

/-- Members are written as a text that spells members with the same texts. -/
theorem exists_spellsMembers_written : ∀ fields : List (String × Json),
    (∀ i ∈ integersOfFields fields, IsShort i) → fields ≠ [] →
    ∃ members, SpellsMembers (writtenFields fields) members ∧ textsOf members = textsOf fields
  | [], _, hsome => absurd rfl hsome
  | [(name, value)], h, _ => by
    obtain ⟨value', hvalue, htext⟩ := exists_spells_written value
      fun i hi ↦ h i (List.mem_append_left _ hi)
    have hmember :=
      SpellsMember.colon (spellsString_written name) isBlanks_nil isBlanks_space hvalue
    exact ⟨[(name, value')], .one hmember, by simp [textsOf, htext]⟩
  | (name, value) :: next :: rest, h, _ => by
    obtain ⟨value', hvalue, htext⟩ := exists_spells_written value
      fun i hi ↦ h i (List.mem_append_left _ hi)
    obtain ⟨members, hmembers, htexts⟩ := exists_spellsMembers_written (next :: rest)
      (fun i hi ↦ h i (List.mem_append_right _ hi)) nofun
    have hmember :=
      SpellsMember.colon (spellsString_written name) isBlanks_nil isBlanks_space hvalue
    have hall := SpellsMembers.cons hmember isBlanks_nil isBlanks_space hmembers
    refine ⟨(name, value') :: members, ?_, ?_⟩
    · simpa [writtenFields] using hall
    · simp only [textsOf, List.map_cons] at htexts ⊢
      rw [htexts, htext]

end

/-! ## Fields with distinct names -/

variable {fields members : List (String × Json)}

/-- Of fields with distinct names none stands behind another one with its name. -/
theorem field?_reverse (h : (fields.map (·.1)).Nodup) (name : String) :
    field? fields.reverse name = field? fields name := by
  induction fields with
  | nil => rfl
  | cons field rest ih =>
    obtain ⟨hnew, hrest⟩ := List.nodup_cons.mp h
    have hreverse : field? (field :: rest).reverse name =
        (field? rest.reverse name).or (field? [field] name) := by
      simp [field?, List.find?_append, Option.map_or]
    rw [hreverse, ih hrest]
    by_cases hname : field.1 = name
    · have hnone : field? rest name = none := by
        simp only [field?, Option.map_eq_none_iff, List.find?_eq_none, beq_iff_eq]
        rintro other hother rfl
        exact hnew (List.mem_map.mpr ⟨other, hother, hname.symm⟩)
      rw [hnone, Option.none_or]
      simp [field?, hname]
    · simp [field?, hname]

/-- The text of a field depends on the names and the texts of the fields. -/
theorem bind_text?_eq (fields : List (String × Json)) (name : String) :
    (field? fields name).bind text? =
      ((textsOf fields).find? fun field ↦ field.1 == name).bind (·.2) := by
  rw [field?, textsOf, List.find?_map, Option.bind_map, Option.bind_map]
  rfl

/-- Members with the texts of some fields with distinct names give fields with these texts. -/
theorem text_gathered (htexts : textsOf members = textsOf fields)
    (hnodup : (fields.map (·.1)).Nodup) (name : String) :
    (field? (gathered members) name).bind text? = (field? fields name).bind text? := by
  have hreverse : textsOf members.reverse = textsOf fields.reverse := by
    simp only [textsOf, List.map_reverse] at htexts ⊢
    rw [htexts]
  rw [field?_gathered, bind_text?_eq, hreverse, ← bind_text?_eq, field?_reverse hnodup]

end TenantBroker.Json
