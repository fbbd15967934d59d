import TenantBroker.Text.Hex
import TenantBroker.Text.Utf8

/-!
# Percent encoding

A percent sign and two hexadecimal digits stand for a byte; runs of such bytes and of other ASCII
characters are read together as UTF-8, leniently. A percent sign that two digits do not follow
stands for itself. A query is a list of `name=value` pairs, in which a plus sign is a space.
-/

namespace TenantBroker.Text.Percent

/-- The bytes of a run of ASCII characters, escapes undone. `skip` counts the digits of an escape
that are still to be passed. -/
def bytesFrom : (skip : Nat) → List Char → List UInt8
  | _, [] => []
  | skip + 1, _ :: rest => bytesFrom skip rest
  | 0, c :: rest =>
    match c, rest with
    | '%', a :: b :: _ =>
      match hexValue? a, hexValue? b with
      | some high, some low => UInt8.ofNat (high * 16 + low) :: bytesFrom 2 rest
      | _, _ => UInt8.ofNat c.toNat :: bytesFrom 0 rest
    | _, _ => UInt8.ofNat c.toNat :: bytesFrom 0 rest

/-- The text of a run of ASCII characters. -/
def decodeAscii (cs : List Char) : List Char := Utf8.decodeLenient (bytesFrom 0 cs)

/-- Undoes the escapes of a text: `run` holds the ASCII characters just read, last first. -/
def decodeAfter (run : List Char) : List Char → List Char
  | [] => decodeAscii run.reverse
  | c :: rest =>
    if c.toNat < 0x80 then decodeAfter (c :: run) rest
    else decodeAscii run.reverse ++ c :: decodeAfter [] rest

/-- Undoes the escapes of a text. -/
def decode (cs : List Char) : List Char := decodeAfter [] cs

/-- Splits a text at every occurrence of a character. -/
def splitAt (separator : Char) : List Char → List (List Char)
  | [] => [[]]
  | c :: rest =>
    if c = separator then [] :: splitAt separator rest
    else
      match splitAt separator rest with
      | part :: parts => (c :: part) :: parts
      | [] => [[c]]

/-- One side of a query pair, as text. -/
def queryText (cs : List Char) : String :=
  String.ofList (decode (cs.map fun c ↦ if c = '+' then ' ' else c))

/-- A text as its bytes in UTF-8, each byte as the character of its number. -/
def bytewise (cs : List Char) : List Char := (Utf8.encode cs).map fun b ↦ Char.ofNat b.toNat

/-- The pairs of a query, in order. A part without an equals sign has the empty value; empty parts
are passed over. -/
def queryPairs (query : List Char) : List (String × String) :=
  ((splitAt '&' query).filter (!·.isEmpty)).map fun part ↦
    (queryText (part.takeWhile (· ≠ '=')), queryText ((part.dropWhile (· ≠ '=')).drop 1))

/-- The characters that stand for themselves in a location: letters, digits and these marks. -/
def locationMarks : List Char := "_.-~:/%#?=@[]!$&'()*+,;".toList

/-- A path with the marks escaped at which it would end. -/
def quotePath (cs : List Char) : List Char :=
  cs.flatMap fun c ↦ if c = '?' ∨ c = '#' then '%' :: capitalHex 2 c.toNat else [c]

/-- A text as a location: every other character is written as its bytes, escaped. -/
def quoteLocation (cs : List Char) : List Char :=
  cs.flatMap fun c ↦
    if c.isAlphanum || locationMarks.contains c then [c]
    else (Utf8.encode [c]).flatMap fun b ↦ '%' :: capitalHex 2 b.toNat

end TenantBroker.Text.Percent
