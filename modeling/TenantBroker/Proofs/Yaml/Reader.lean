import TenantBroker.Text.Case
import TenantBroker.Yaml.Scalar

/-!
# Reading records of texts

What a reader of YAML takes from a document that is a record of texts: fields from the first column
on, each with a plain word as its name. A text may stand plain or between quotes, and it may go on
in lines that are indented. There one line break is a space, of several all but the first count, and
the spaces around them are nothing. Between double quotes a backslash starts an escape, or hides a
line break.

Other documents are not read here. A plain text is declined where it could be a number, a date, a
truth value or null.
-/

namespace TenantBroker.Yaml

/-- A space or a line break. -/
def isGap (c : Char) : Bool := c == ' ' || c == '\n'

/-- The fields of a document, each without the line break at its end. A line that is empty or
indented belongs to the field before it. -/
def splitFields : List Char → List (List Char)
  | [] => []
  | c :: rest =>
    if c = '\n' ∧ ¬ rest.head?.any isGap then [] :: splitFields rest
    else
      match splitFields rest with
      | [] => [[c]]
      | field :: fields => (c :: field) :: fields

/-! ## Line folding -/

/-- The end of a text: the gap that it starts with, by the number of its line breaks, or of its
spaces if there are none, and what follows the gap. -/
structure Unfolding where
  breaks : Nat
  spaces : Nat
  text : List Char

/-- The text that has been read. -/
def Unfolding.whole (u : Unfolding) : List Char :=
  match u.breaks with
  | 0 => List.replicate u.spaces ' ' ++ u.text
  | 1 => ' ' :: u.text
  | breaks + 2 => List.replicate (breaks + 1) '\n' ++ u.text

/-- Reads the character before. -/
def Unfolding.push (c : Char) (u : Unfolding) : Unfolding :=
  if c = '\n' then { u with breaks := u.breaks + 1 }
  else if c = ' ' then if u.breaks = 0 then { u with spaces := u.spaces + 1 } else u
  else ⟨0, 0, c :: u.whole⟩

/-- The text that lines stand for. -/
def unfold (cs : List Char) : List Char := (cs.foldr Unfolding.push ⟨0, 0, []⟩).whole

/-! ## Texts -/

/-- The words that are no texts where they stand plain, in small letters. -/
def otherWords : List String := ["null", "true", "false", "yes", "no", "on", "off"]

/-- Whether a plain text is a text for certain. -/
def isText (cs : List Char) : Bool :=
  !(cs.head?.any fun c ↦ c.isDigit || "+-.~<=".toList.contains c) &&
    !otherWords.contains (Text.foldAscii (String.ofList cs))

/-- A text between single quotes, where every quote stands twice; `half` after the first of two. -/
def undouble : (half : Bool) → List Char → Option (List Char)
  | half, [] => if half then none else some []
  | true, c :: rest => if c = '\'' then (undouble false rest).map (c :: ·) else none
  | false, c :: rest => if c = '\'' then undouble true rest else (undouble false rest).map (c :: ·)

/-- The character whose code stands at the start, in so many digits, and the length of its escape.
-/
def readCode? (width : Nat) (cs : List Char) : Option (List Char × Nat) :=
  let digits := cs.take width
  match Text.hexNumber? digits with
  | some code =>
    if digits.length = width ∧ code.isValidChar then some ([Char.ofNat code], width + 1) else none
  | none => none

/-- What an escape stands for, and how many of the characters after its backslash belong to it. -/
def readEscape? : List Char → Option (List Char × Nat)
  | [] => none
  | c :: rest =>
    if c = '\n' then some ([], (rest.takeWhile (· == ' ')).length + 1)
    else if c = 'x' then readCode? 2 rest
    else if c = 'u' then readCode? 4 rest
    else if c = 'U' then readCode? 8 rest
    else if c = ' ' then some ([' '], 1)
    else (escapeLetters.find? (·.2 = c)).map fun entry ↦ ([entry.1], 1)

/-- A text between double quotes, up to the quote at its end. `skip` counts the characters of an
escape that are still to be passed. -/
def readDouble? : (skip : Nat) → List Char → Option (List Char)
  | _, [] => none
  | skip + 1, _ :: rest => readDouble? skip rest
  | 0, c :: rest =>
    if c = '"' then if rest.isEmpty then some [] else none
    else if c = '\\' then
      match readEscape? rest with
      | some (cs, length) => (readDouble? length rest).map (cs ++ ·)
      | none => none
    else if 0x20 ≤ c.toNat ∧ c.toNat ≤ 0x7E then (readDouble? 0 rest).map (c :: ·)
    else none

/-- A text in one of the three forms. -/
def readScalar? : List Char → Option (List Char)
  | '"' :: rest => readDouble? 0 rest
  | '\'' :: rest =>
    let cs := unfold rest.dropLast
    if rest.getLast? = some '\'' ∧ cs.all isOrdinary then undouble false cs else none
  | raw =>
    let cs := unfold raw
    if isPlain cs && isText cs then some cs else none

/-! ## Records -/

/-- Whether a name is a plain word. -/
def isWord (cs : List Char) : Bool :=
  !cs.isEmpty && cs.all (fun c ↦ c.isAlpha || c == '_') && isText cs

/-- A field with its name. -/
def readField? (cs : List Char) : Option (String × String) :=
  let name := cs.takeWhile (· ≠ ':')
  match cs.drop name.length with
  | ':' :: ' ' :: value =>
    if isWord name then
      (readScalar? value).map fun text ↦ (String.ofList name, String.ofList text)
    else none
  | _ => none

/-- The fields of a document. -/
def read? (document : String) : Option (List (String × String)) :=
  (splitFields document.toList).mapM readField?

end TenantBroker.Yaml
