import TenantBroker.Json
import TenantBroker.Text.Quoted

/-!
# Values in messages

A message shows a text as it is and any other value in brackets and quotes: `[1, 'a', None]`.
Within a list or a record texts are quoted too.
-/

namespace TenantBroker.Json

mutual

/-- A value with its texts quoted. -/
def quoted : Json → String
  | .null => "None"
  | .bool value => if value then "True" else "False"
  | .num value => value.text
  | .str value => Text.quoted value
  | .arr items => "[" ++ quotedItems items ++ "]"
  | .obj fields => "\x7b" ++ quotedFields fields ++ "\x7d"

/-- The items of a list. -/
def quotedItems : List Json → String
  | [] => ""
  | [value] => quoted value
  | value :: next :: rest => quoted value ++ ", " ++ quotedItems (next :: rest)

/-- The members of a record. -/
def quotedFields : List (String × Json) → String
  | [] => ""
  | [(name, value)] => Text.quoted name ++ ": " ++ quoted value
  | (name, value) :: next :: rest =>
    Text.quoted name ++ ": " ++ quoted value ++ ", " ++ quotedFields (next :: rest)

end

/-- A value in running text. -/
def shown : Json → String
  | .str value => value
  | value => value.quoted

end TenantBroker.Json
