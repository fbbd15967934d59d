import TenantBroker.Json
import TenantBroker.Number.Reading
import TenantBroker.Text.Encoding

/-!
# Reading JSON

A document is one value with blanks around it. Beyond the standard the words `NaN`, `Infinity` and
`-Infinity` are numbers; a name that occurs twice in an object has its last value; a whole number
of more than 4300 digits is refused. A text must not begin with a byte order mark, whereas bytes
may: there it is part of the encoding.

A reader returns what it has read and the rest of the text. When it cannot go on it says why and
how much text was left, from which the place of the fault follows. There is no limit on how deeply
values are nested: one that a particular interpreter sets is left out.
-/

namespace TenantBroker.Json

/-- Why a text is no document. -/
inductive Reason where
  | expectingValue
  | expectingName
  | expectingColon
  | expectingComma
  | invalidEscape
  | invalidUnicodeEscape
  | controlCharacter
  | unterminated
  | extraData
  | byteOrderMark
  deriving DecidableEq

/-- The wording of a reason. -/
def Reason.message : Reason → String
  | .expectingValue => "Expecting value"
  | .expectingName => "Expecting property name enclosed in double quotes"
  | .expectingColon => "Expecting ':' delimiter"
  | .expectingComma => "Expecting ',' delimiter"
  | .invalidEscape => "Invalid \\escape"
  | .invalidUnicodeEscape => "Invalid \\uXXXX escape"
  | .controlCharacter => "Invalid control character at"
  | .unterminated => "Unterminated string starting at"
  | .extraData => "Extra data"
  | .byteOrderMark => "Unexpected UTF-8 BOM (decode using utf-8-sig)"

/-- Why a reader stopped: at a place, given by the number of characters left, or at a whole number
with too many digits. -/
inductive Stop where
  | malformed (reason : Reason) (left : Nat)
  | tooManyDigits (count : Nat)
  deriving DecidableEq

/-- A reader's result: a value and the rest of the text. -/
abbrev Reading (α : Type) := Except Stop (α × List Char)

/-- Stops at the start of some text. -/
def stopAt {α : Type} (reason : Reason) (rest : List Char) : Reading α :=
  .error (.malformed reason rest.length)

/-- The four blanks of JSON. -/
def isSpace (c : Char) : Bool := c = ' ' || c = '\t' || c = '\n' || c = '\r'

/-- The text after its blanks. -/
def skipSpace (cs : List Char) : List Char := cs.dropWhile isSpace

/-- The character that a one-letter escape stands for. -/
def shortEscape? (c : Char) : Option Char :=
  if c = '"' ∨ c = '\\' ∨ c = '/' then some c
  else if c = 'b' then some '\x08'
  else if c = 'f' then some '\x0c'
  else if c = 'n' then some '\n'
  else if c = 'r' then some '\r'
  else if c = 't' then some '\t'
  else none

/-- The number of four hexadecimal digits that at least one more character follows. -/
def fourDigits : List Char → Option Nat
  | a :: b :: c :: d :: _ :: _ => Text.hexNumber? [a, b, c, d]
  | _ => none

/-- The escape after a backslash: the character it stands for and its length. `start` is the text
from the opening quote, `back` the text from the backslash. -/
def escape (start back rest : List Char) : Except Stop (Char × Nat) :=
  match rest with
  | [] => .error (.malformed .unterminated start.length)
  | 'u' :: digits =>
    match fourDigits digits with
    | none => .error (.malformed .invalidUnicodeEscape rest.length)
    | some first =>
      let lone := (Text.scalarOrReplacement first, 5)
      if 0xD800 ≤ first ∧ first ≤ 0xDBFF then
        match digits.drop 4 with
        | '\\' :: 'u' :: more =>
          if more.length < 5 then .ok lone
          else
            match fourDigits more with
            | none => .error (.malformed .invalidUnicodeEscape (more.length + 1))
            | some second =>
              if 0xDC00 ≤ second ∧ second ≤ 0xDFFF then
                .ok (Char.ofNat (0x10000 + (first - 0xD800) * 0x400 + (second - 0xDC00)), 11)
              else .ok lone
        | _ => .ok lone
      else .ok lone
  | c :: _ =>
    match shortEscape? c with
    | some character => .ok (character, 1)
    | none => .error (.malformed .invalidEscape back.length)

/-- Reads a string after its opening quote, passing over `skip` characters of an escape first. -/
def readChars (start : List Char) : (skip : Nat) → List Char → Reading (List Char)
  | _, [] => stopAt .unterminated start
  | skip + 1, _ :: rest => readChars start skip rest
  | 0, c :: rest =>
    if c = '"' then .ok ([], rest)
    else if c = '\\' then
      match escape start (c :: rest) rest with
      | .error stop => .error stop
      | .ok (character, length) =>
        (readChars start length rest).map fun (cs, after) ↦ (character :: cs, after)
    else if c.toNat ≤ 0x1F then stopAt .controlCharacter (c :: rest)
    else (readChars start 0 rest).map fun (cs, after) ↦ (c :: cs, after)

/-- Reads a string whose opening quote is the first character of `start`. -/
def readString (start rest : List Char) : Reading String :=
  (readChars start 0 rest).map fun (cs, after) ↦ (String.ofList cs, after)

/-- The digits of a fraction: a point that a digit follows. -/
def splitFraction : List Char → List Char × List Char
  | '.' :: rest =>
    if rest.head?.any Char.isDigit then
      (rest.takeWhile Char.isDigit, rest.dropWhile Char.isDigit)
    else ([], '.' :: rest)
  | rest => ([], rest)

/-- The value of an exponent: the letter, a sign if there is one, and digits. -/
def splitExponent (cs : List Char) : Option Int × List Char :=
  match cs with
  | c :: rest =>
    let (negative, digits) := Number.splitSign rest
    if (c = 'e' ∨ c = 'E') ∧ digits.head?.any Char.isDigit then
      let value : Int := Number.ofDigits (digits.takeWhile Char.isDigit)
      (some (if negative then -value else value), digits.dropWhile Char.isDigit)
    else (none, cs)
  | [] => (none, [])

/-- The digits before the point: a zero, or digits that do not begin with one. -/
def splitWhole : List Char → List Char × List Char
  | '0' :: rest => (['0'], rest)
  | cs => (cs.takeWhile Char.isDigit, cs.dropWhile Char.isDigit)

/-- Reads a number. -/
def readNumber (cs : List Char) : Reading Json :=
  let (negative, unsigned) := match cs with
    | '-' :: rest => (true, rest)
    | _ => (false, cs)
  let (whole, afterWhole) := splitWhole unsigned
  if whole.isEmpty then stopAt .expectingValue cs
  else
    let (fraction, afterFraction) := splitFraction afterWhole
    let (exponent, rest) := splitExponent afterFraction
    if fraction.isEmpty && exponent.isNone then
      if Number.maxDigits < whole.length then .error (.tooManyDigits whole.length)
      else
        let value : Int := Number.ofDigits whole
        .ok (.int (if negative then -value else value), rest)
    else
      .ok (.num (.real (Binary64.ofDecimal negative (Number.ofDigits (whole ++ fraction))
        (exponent.getD 0 - fraction.length))), rest)

/-- The words that are values. -/
def words : List (List Char × Json) := [
  ("null".toList, .null), ("true".toList, .bool true), ("false".toList, .bool false),
  ("NaN".toList, .num (.real .nan)), ("Infinity".toList, .num (.real (.infinite false))),
  ("-Infinity".toList, .num (.real (.infinite true)))]

/-- Reads a word or a number. -/
def readPlain (cs : List Char) : Reading Json :=
  match words.find? fun word ↦ word.1.isPrefixOf cs with
  | some (word, value) => .ok (value, cs.drop word.length)
  | none => readNumber cs

mutual

/-- Reads a value. The first argument bounds the number of nested calls; every character of the
text is worth two at most. -/
def readValue : Nat → List Char → Reading Json
  | 0, cs => stopAt .expectingValue cs
  | fuel + 1, cs =>
    match cs with
    | '"' :: rest => (readString cs rest).map fun (value, after) ↦ (.str value, after)
    | '\x7b' :: rest =>
      match skipSpace rest with
      | '\x7d' :: after => .ok (.obj [], after)
      | inside => (readMembers fuel [] inside).map fun (fields, after) ↦ (.obj fields, after)
    | '[' :: rest =>
      match skipSpace rest with
      | ']' :: after => .ok (.arr [], after)
      | inside => (readItems fuel inside).map fun (items, after) ↦ (.arr items, after)
    | _ => readPlain cs

/-- Reads the members of an object up to its closing brace. -/
def readMembers : Nat → List (String × Json) → List Char → Reading (List (String × Json))
  | 0, _, cs => stopAt .expectingName cs
  | fuel + 1, fields, cs =>
    match cs with
    | '"' :: rest =>
      match readString cs rest with
      | .error stop => .error stop
      | .ok (name, afterName) =>
        match skipSpace afterName with
        | ':' :: afterColon =>
          match readValue fuel (skipSpace afterColon) with
          | .error stop => .error stop
          | .ok (value, afterValue) =>
            match skipSpace afterValue with
            | '\x7d' :: after => .ok (setField fields name value, after)
            | ',' :: after => readMembers fuel (setField fields name value) (skipSpace after)
            | other => stopAt .expectingComma other
        | other => stopAt .expectingColon other
    | _ => stopAt .expectingName cs

/-- Reads the items of an array up to its closing bracket. -/
def readItems : Nat → List Char → Reading (List Json)
  | 0, cs => stopAt .expectingValue cs
  | fuel + 1, cs =>
    match readValue fuel cs with
    | .error stop => .error stop
    | .ok (value, afterValue) =>
      match skipSpace afterValue with
      | ']' :: after => .ok ([value], after)
      | ',' :: after =>
        (readItems fuel (skipSpace after)).map fun (values, rest) ↦ (value :: values, rest)
      | other => stopAt .expectingComma other

end

/-- A place in a text: its index, and the line and column that index stands for. -/
structure Place where
  index : Nat
  line : Nat
  column : Nat
  deriving DecidableEq

/-- The place that leaves a number of characters of a text unread. -/
def Place.ofLeft (cs : List Char) (left : Nat) : Place :=
  let before := cs.take (cs.length - left)
  let lastLine := before.reverse.takeWhile (· ≠ '\n')
  ⟨before.length, before.count '\n' + 1, lastLine.length + 1⟩

/-- Why a text is no document, and where. -/
inductive ReadFault where
  | malformed (reason : Reason) (place : Place)
  | tooManyDigits (count : Nat)
  deriving DecidableEq

/-- The wording of a fault. -/
def ReadFault.message : ReadFault → String
  | .malformed reason place =>
    reason.message ++ ": line " ++ toString place.line ++ " column " ++ toString place.column ++
      " (char " ++ toString place.index ++ ")"
  | .tooManyDigits count =>
    "Exceeds the limit (4300 digits) for integer string conversion: value has " ++
      toString count ++ " digits; use sys.set_int_max_str_digits() to increase the limit"

/-- Reads a document: one value and nothing but blanks around it. -/
def readDocument (cs : List Char) : Except Stop Json :=
  match readValue (2 * cs.length + 2) (skipSpace cs) with
  | .error stop => .error stop
  | .ok (value, rest) =>
    match skipSpace rest with
    | [] => .ok value
    | extra => .error (.malformed .extraData extra.length)

/-- Reads the characters of a document, wherever they came from. -/
def readChecked (cs : List Char) : Except ReadFault Json :=
  match readDocument cs with
  | .ok value => .ok value
  | .error (.malformed reason left) => .error (.malformed reason (.ofLeft cs left))
  | .error (.tooManyDigits count) => .error (.tooManyDigits count)

/-- Reads a text. -/
def read (s : String) : Except ReadFault Json :=
  if s.toList.head? = some '\uFEFF' then .error (.malformed .byteOrderMark ⟨0, 1, 1⟩)
  else readChecked s.toList

/-- Why bytes are no document. -/
inductive BytesFault where
  | undecodable (fault : Text.DecodeFault)
  | unreadable (fault : ReadFault)
  deriving DecidableEq

/-- The wording of a fault. -/
def BytesFault.message : BytesFault → String
  | .undecodable fault => fault.message
  | .unreadable fault => fault.message

/-- Reads bytes, in the encoding that they show. -/
def readBytes (bytes : List UInt8) : Except BytesFault Json :=
  match Text.decodeDetected bytes with
  | .error fault => .error (.undecodable fault)
  | .ok cs => (readChecked cs).mapError .unreadable

end TenantBroker.Json
