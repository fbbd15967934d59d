import TenantBroker.Json
import TenantBroker.Yaml.Scalar

/-!
# Records in YAML

A record is written one field a line, and a field whose value is a record is followed by its fields
two columns further in. A list is written one item a line, at the column of the field that it
belongs to. Empty records and lists are written in braces and brackets. The names of fields are
plain words.
-/

namespace TenantBroker.Yaml

/-- A value that fits on the line of its field or item, from a column on. -/
def inlineValue (indent column : Nat) : Json → List Char
  | .null => "null".toList
  | .bool value => (if value then "true" else "false").toList
  | .num value => value.text.toList
  | .str value => scalar indent column value
  | .arr _ => "[]".toList
  | .obj _ => "\x7b\x7d".toList

mutual

/-- The fields of a record; the first one starts at the column `indent` of a line begun already. -/
def fields (indent : Nat) : List (String × Json) → List Char
  | [] => []
  | [(name, value)] => name.toList ++ ':' :: fieldValue indent (indent + name.length + 2) value
  | (name, value) :: next :: rest =>
    name.toList ++ ':' :: fieldValue indent (indent + name.length + 2) value ++
      lineBreak indent ++ fields indent (next :: rest)

/-- The value of a field; `column` is where it starts if it fits on the line. -/
def fieldValue (indent column : Nat) : Json → List Char
  | .obj (f :: rest) => lineBreak (indent + 2) ++ fields (indent + 2) (f :: rest)
  | .arr (item :: rest) => lineBreak indent ++ items indent (item :: rest)
  | value => ' ' :: inlineValue (indent + 2) column value

/-- The items of a list; the first one starts at the column `indent` of a line begun already. -/
def items (indent : Nat) : List Json → List Char
  | [] => []
  | [value] => '-' :: ' ' :: itemValue indent value
  | value :: next :: rest =>
    '-' :: ' ' :: itemValue indent value ++ lineBreak indent ++ items indent (next :: rest)

/-- The value of an item. -/
def itemValue (indent : Nat) : Json → List Char
  | .obj (f :: rest) => fields (indent + 2) (f :: rest)
  | .arr (item :: rest) => items (indent + 2) (item :: rest)
  | value => inlineValue (indent + 2) (indent + 2) value

end

/-- A record as a document. -/
def write (record : List (String × Json)) : String := String.ofList (fields 0 record ++ ['\n'])

end TenantBroker.Yaml
