import TenantBroker.Json
import TenantBroker.Text.Hex

/-!
# Writing JSON

The text of a value is one line of ASCII: a comma or a colon is followed by one space, and every
character outside the printable ASCII range is escaped, those past U+FFFF as two surrogates.
-/

namespace TenantBroker.Json

/-- The escape of a 16-bit unit. -/
def unitEscape (unit : Nat) : List Char := '\\' :: 'u' :: Text.hex 4 unit

/-- One character of a string. -/
def writtenChar (c : Char) : List Char :=
  if c = '"' ∨ c = '\\' then ['\\', c]
  else if c = '\n' then ['\\', 'n']
  else if c = '\r' then ['\\', 'r']
  else if c = '\t' then ['\\', 't']
  else if c = '\x0c' then ['\\', 'f']
  else if c = '\x08' then ['\\', 'b']
  else if 0x20 ≤ c.toNat ∧ c.toNat ≤ 0x7E then [c]
  else if c.toNat < 0x10000 then unitEscape c.toNat
  else
    unitEscape (0xD800 + (c.toNat - 0x10000) / 0x400) ++
      unitEscape (0xDC00 + (c.toNat - 0x10000) % 0x400)

/-- A string between its quotes. -/
def writtenString (s : String) : List Char := '"' :: s.toList.flatMap writtenChar ++ ['"']

/-- A number. -/
def writtenNumber : Number → String
  | .real .nan => "NaN"
  | .real (.infinite negative) => if negative then "-Infinity" else "Infinity"
  | number => number.text

mutual

/-- The text of a value, as characters. -/
def written : Json → List Char
  | .null => "null".toList
  | .bool value => (if value then "true" else "false").toList
  | .num value => (writtenNumber value).toList
  | .str value => writtenString value
  | .arr items => '[' :: writtenItems items ++ [']']
  | .obj fields => '\x7b' :: writtenFields fields ++ ['\x7d']

/-- The items of an array. -/
def writtenItems : List Json → List Char
  | [] => []
  | [value] => written value
  | value :: next :: rest => written value ++ ',' :: ' ' :: writtenItems (next :: rest)

/-- The members of an object. -/
def writtenFields : List (String × Json) → List Char
  | [] => []
  | [(name, value)] => writtenString name ++ ':' :: ' ' :: written value
  | (name, value) :: next :: rest =>
    writtenString name ++ ':' :: ' ' :: written value ++ ',' :: ' ' :: writtenFields (next :: rest)

end

/-- The text of a value. -/
def write (value : Json) : String := String.ofList value.written

end TenantBroker.Json
