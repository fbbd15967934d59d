import Mathlib.Data.List.Induction
import TenantBroker.Json.Reader

/-!
# The grammar of JSON

Which texts spell which values, said without a reader. A document is the text of one value with
blanks around it. Members of a record are gathered from the first to the last, so the last one of
those with the same name decides.
-/

namespace TenantBroker.Json

/-- A run of blanks. -/
def IsBlanks (cs : List Char) : Prop := ∀ c ∈ cs, isSpace c = true

/-! ## Strings -/

/-- Four hexadecimal digits spell a 16-bit unit. -/
def SpellsUnit (digits : List Char) (unit : Nat) : Prop :=
  digits.length = 4 ∧ Text.hexNumber? digits = some unit

/-- The first unit of a surrogate pair. -/
def IsHigh (unit : Nat) : Prop := 0xD800 ≤ unit ∧ unit ≤ 0xDBFF

/-- The second unit of a surrogate pair. -/
def IsLow (unit : Nat) : Prop := 0xDC00 ≤ unit ∧ unit ≤ 0xDFFF

/-- The character of a surrogate pair. -/
def joined (high low : Nat) : Char :=
  Char.ofNat (0x10000 + (high - 0xD800) * 0x400 + (low - 0xDC00))

/-- A text that begins with the escape of the second unit of a surrogate pair. -/
def StartsLow (text : List Char) : Prop :=
  ∃ digits low rest, SpellsUnit digits low ∧ IsLow low ∧ text = '\\' :: 'u' :: (digits ++ rest)

/-- A text between quotes spells some characters. An escaped unit stands for the character with that
code unless it is the first one of a pair that the next escape completes; a surrogate outside a
pair stands for the replacement character, as it does for the reader. -/
inductive SpellsChars : List Char → List Char → Prop
  | nil : SpellsChars [] []
  | plain {c : Char} {text cs : List Char} (hquote : c ≠ '"') (hback : c ≠ '\\')
      (hcontrol : 0x1F < c.toNat) (rest : SpellsChars text cs) : SpellsChars (c :: text) (c :: cs)
  | short {c character : Char} {text cs : List Char} (h : shortEscape? c = some character)
      (rest : SpellsChars text cs) : SpellsChars ('\\' :: c :: text) (character :: cs)
  | unit {digits text cs : List Char} {unit : Nat} (h : SpellsUnit digits unit)
      (halone : IsHigh unit → ¬ StartsLow text) (rest : SpellsChars text cs) :
      SpellsChars ('\\' :: 'u' :: (digits ++ text)) (Text.scalarOrReplacement unit :: cs)
  | pair {first second text cs : List Char} {high low : Nat} (hfirst : SpellsUnit first high)
      (hhigh : IsHigh high) (hsecond : SpellsUnit second low) (hlow : IsLow low)
      (rest : SpellsChars text cs) :
      SpellsChars ('\\' :: 'u' :: (first ++ '\\' :: 'u' :: (second ++ text)))
        (joined high low :: cs)

/-- A text in quotes spells a string. -/
inductive SpellsString : List Char → String → Prop
  | quoted {text cs : List Char} (h : SpellsChars text cs) :
      SpellsString ('"' :: (text ++ ['"'])) (String.ofList cs)

/-! ## Numbers -/

/-- Digits, at least one. -/
def IsDigits (cs : List Char) : Prop := cs ≠ [] ∧ ∀ c ∈ cs, c.isDigit = true

/-- The digits before the point: a zero, or digits that do not begin with one. -/
def IsWhole (cs : List Char) : Prop := IsDigits cs ∧ (cs.head? = some '0' → cs = ['0'])

/-- A minus sign, if there is one. -/
def minus (negative : Bool) : List Char := if negative then ['-'] else []

/-- A number with a sign. -/
def signed (negative : Bool) (value : Nat) : Int := if negative then -value else value

/-- Nothing, or a point with digits, spells the digits of a fraction. -/
inductive SpellsFraction : List Char → List Char → Prop
  | none : SpellsFraction [] []
  | point {digits : List Char} (h : IsDigits digits) : SpellsFraction ('.' :: digits) digits

/-- The sign of an exponent. -/
inductive SpellsSign : List Char → Bool → Prop
  | none : SpellsSign [] false
  | plus : SpellsSign ['+'] false
  | minus : SpellsSign ['-'] true

/-- Nothing, or a letter with a sign and digits, spells an exponent. -/
inductive SpellsExponent : List Char → Option Int → Prop
  | none : SpellsExponent [] none
  | letter {letter : Char} {sign digits : List Char} {negative : Bool}
      (hletter : letter = 'e' ∨ letter = 'E') (hsign : SpellsSign sign negative)
      (h : IsDigits digits) :
      SpellsExponent (letter :: (sign ++ digits))
        (some (signed negative (Number.ofDigits digits)))

/-- A text spells a number: a whole one, of limited length, or one with a fraction or an exponent.
-/
inductive SpellsNumber : List Char → Number → Prop
  | int {negative : Bool} {whole : List Char} (hwhole : IsWhole whole)
      (hshort : whole.length ≤ Number.maxDigits) :
      SpellsNumber (minus negative ++ whole) (.int (signed negative (Number.ofDigits whole)))
  | real {negative : Bool} {whole fractionText fraction exponentText : List Char}
      {exponent : Option Int} (hwhole : IsWhole whole)
      (hfraction : SpellsFraction fractionText fraction)
      (hexponent : SpellsExponent exponentText exponent)
      (hsome : fractionText ++ exponentText ≠ []) :
      SpellsNumber (minus negative ++ (whole ++ (fractionText ++ exponentText)))
        (.real (Binary64.ofDecimal negative (Number.ofDigits (whole ++ fraction))
          (exponent.getD 0 - fraction.length)))

/-! ## Values -/

/-- Fields after some members have been set, one after another. -/
def setFields (fields members : List (String × Json)) : List (String × Json) :=
  members.foldl (fun fields member ↦ setField fields member.1 member.2) fields

/-- The fields of a record, from its members in their order. -/
def gathered (members : List (String × Json)) : List (String × Json) := setFields [] members

mutual

/-- A text spells a value. -/
inductive Spells : List Char → Json → Prop
  | word {word : List Char} {value : Json} (h : (word, value) ∈ words) : Spells word value
  | number {text : List Char} {number : Number} (h : SpellsNumber text number) :
      Spells text (.num number)
  | string {text : List Char} {s : String} (h : SpellsString text s) : Spells text (.str s)
  | noItems {blanks : List Char} (h : IsBlanks blanks) : Spells ('[' :: (blanks ++ [']'])) (.arr [])
  | items {before text after : List Char} {items : List Json} (hbefore : IsBlanks before)
      (hafter : IsBlanks after) (h : SpellsItems text items) :
      Spells ('[' :: (before ++ (text ++ (after ++ [']'])))) (.arr items)
  | record {text : List Char} {members : List (String × Json)} (h : SpellsRecord text members) :
      Spells text (.obj (gathered members))

/-- A text spells one or more items with commas between them. -/
inductive SpellsItems : List Char → List Json → Prop
  | one {text : List Char} {value : Json} (h : Spells text value) : SpellsItems text [value]
  | cons {text before after more : List Char} {value : Json} {values : List Json}
      (h : Spells text value) (hbefore : IsBlanks before) (hafter : IsBlanks after)
      (rest : SpellsItems more values) :
      SpellsItems (text ++ (before ++ ',' :: (after ++ more))) (value :: values)

/-- A text spells a record with some members. -/
inductive SpellsRecord : List Char → List (String × Json) → Prop
  | none {blanks : List Char} (h : IsBlanks blanks) :
      SpellsRecord ('\x7b' :: (blanks ++ ['\x7d'])) []
  | some {before text after : List Char} {members : List (String × Json)}
      (hbefore : IsBlanks before) (hafter : IsBlanks after) (h : SpellsMembers text members) :
      SpellsRecord ('\x7b' :: (before ++ (text ++ (after ++ ['\x7d'])))) members

/-- A text spells one or more members with commas between them. -/
inductive SpellsMembers : List Char → List (String × Json) → Prop
  | one {text : List Char} {member : String × Json} (h : SpellsMember text member) :
      SpellsMembers text [member]
  | cons {text before after more : List Char} {member : String × Json}
      {members : List (String × Json)} (h : SpellsMember text member) (hbefore : IsBlanks before)
      (hafter : IsBlanks after) (rest : SpellsMembers more members) :
      SpellsMembers (text ++ (before ++ ',' :: (after ++ more))) (member :: members)

/-- A text spells a member: a name, a colon and a value. -/
inductive SpellsMember : List Char → String × Json → Prop
  | colon {name before after text : List Char} {s : String} {value : Json}
      (hname : SpellsString name s) (hbefore : IsBlanks before) (hafter : IsBlanks after)
      (h : Spells text value) : SpellsMember (name ++ (before ++ ':' :: (after ++ text))) (s, value)

end

/-- A text is a document of a value: its text with blanks around it. -/
def IsDocument (cs : List Char) (value : Json) : Prop :=
  ∃ before text after, IsBlanks before ∧ IsBlanks after ∧ Spells text value ∧
    cs = before ++ (text ++ after)

/-- A text is a document of a record with some members. -/
def IsRecordDocument (cs : List Char) (members : List (String × Json)) : Prop :=
  ∃ before text after, IsBlanks before ∧ IsBlanks after ∧ SpellsRecord text members ∧
    cs = before ++ (text ++ after)

/-! ## Members with one name -/

/-- The last one of some members with a name has a value. -/
def LastMember (members : List (String × Json)) (name : String) (value : Json) : Prop :=
  ∃ before after, members = before ++ (name, value) :: after ∧ ∀ member ∈ after, member.1 ≠ name

variable {fields members : List (String × Json)} {name : String} {value : Json}

/-- A field has the value of the last member with its name. -/
theorem field?_setFields (fields members : List (String × Json)) (name : String) :
    field? (setFields fields members) name =
      (field? members.reverse name).or (field? fields name) := by
  induction members using List.reverseRecOn with
  | nil => rfl
  | append_singleton members member ih =>
    have hlast : setFields fields (members ++ [member]) =
        setField (setFields fields members) member.1 member.2 := by
      rw [setFields, List.foldl_append]
      rfl
    rw [hlast, List.reverse_concat]
    by_cases h : member.1 = name
    · subst h
      rw [field?_setField_self]
      simp [field?]
    · rw [field?_setField_of_ne _ _ (Ne.symm h), ih]
      simp [field?, h]

/-- A field that has been gathered has the value of the last member with its name. -/
theorem field?_gathered (members : List (String × Json)) (name : String) :
    field? (gathered members) name = field? members.reverse name := by
  rw [gathered, field?_setFields]
  exact Option.or_none

/-- A field has been gathered exactly if it is that of the last member with its name. -/
theorem field?_gathered_eq_some_iff :
    field? (gathered members) name = some value ↔ LastMember members name value := by
  rw [field?_gathered, field?, Option.map_eq_some_iff]
  constructor
  · rintro ⟨⟨found, value'⟩, hfind, rfl⟩
    obtain ⟨hname, before, after, heq, hbefore⟩ := List.find?_eq_some_iff_append.mp hfind
    obtain rfl : found = name := by simpa using hname
    refine ⟨after.reverse, before.reverse, ?_, fun member hmember ↦ ?_⟩
    · rw [← List.reverse_reverse members, heq]
      simp
    · simpa using hbefore member (List.mem_reverse.mp hmember)
  · rintro ⟨before, after, rfl, hafter⟩
    refine ⟨(name, value), List.find?_eq_some_iff_append.mpr
      ⟨by simp, after.reverse, before.reverse, by simp, fun member hmember ↦ ?_⟩, rfl⟩
    simpa using hafter member (List.mem_reverse.mp hmember)

/-- The text of a field is the text that the field is. -/
theorem bind_text?_eq_some_iff {text : String} :
    (field? fields name).bind text? = some text ↔ field? fields name = some (.str text) := by
  rw [Option.bind_eq_some_iff]
  constructor
  · rintro ⟨value, hvalue, htext⟩
    cases value with
    | str s =>
      obtain rfl := Option.some.inj htext
      exact hvalue
    | _ => cases htext
  · exact fun h ↦ ⟨_, h, rfl⟩

end TenantBroker.Json
