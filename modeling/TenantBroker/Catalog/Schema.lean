import TenantBroker.Json.Shown
import TenantBroker.Network.Url

/-!
# Schemas

A schema restricts the type of a value. It is `true`, which restricts nothing, or a record with a
type, or several ones of which one suffices. It may declare the draft of the schema language that
it is written in; unless it does so, it is written in the latest one.

The drafts differ in what is a type. Booleans are never numbers. From the sixth draft on a
floating-point number that is whole is an integer; before, integers are known by their form alone.
From the fourth draft on a type is one of seven simple types, or a list of at least one of them
without repetition. In the third draft any text may be a type, but only the simple types and `any`
can be checked, and a type may be a schema itself.
-/

namespace TenantBroker.Catalog

/-- The drafts of the schema language, as far as they differ. -/
inductive Draft where
  | third
  | fourth
  | later
  deriving DecidableEq

/-- The types that every draft knows. -/
inductive SimpleType where
  | array
  | boolean
  | integer
  | null
  | number
  | object
  | string
  deriving DecidableEq

namespace SimpleType

/-- The name of a type. -/
def name : SimpleType → String
  | .array => "array"
  | .boolean => "boolean"
  | .integer => "integer"
  | .null => "null"
  | .number => "number"
  | .object => "object"
  | .string => "string"

/-- Every type. -/
def all : List SimpleType := [.array, .boolean, .integer, .null, .number, .object, .string]

/-- The type of a name. -/
def ofName? (name : String) : Option SimpleType := all.find? (·.name = name)

/-- Whether a value is of a type. -/
def holds (draft : Draft) : SimpleType → Json → Bool
  | .array, .arr _ => true
  | .boolean, .bool _ => true
  | .integer, .num (.int _) => true
  | .integer, .num (.real x) => draft = .later && x.isWhole
  | .null, .null => true
  | .number, .num _ => true
  | .object, .obj _ => true
  | .string, .str _ => true
  | _, _ => false

end SimpleType

/-- How a check against a schema ends without a verdict. -/
inductive CheckFailure where
  | defect (what : Defect)
  /-- The language that the schema declares is no URL. -/
  | language (fault : Network.UrlFault)
  deriving DecidableEq

/-- The field that declares the language of a schema. -/
def languageField : String := "$schema"

/-- The paths of the drafts at the host of the schema language. -/
def draftPaths : List (String × Draft) := [
  ("/draft-03/schema", .third), ("/draft-04/schema", .fourth), ("/draft-06/schema", .later),
  ("/draft-07/schema", .later)]

/-- The paths of the drafts that are known under a secure scheme only. -/
def securePaths : List (String × Draft) := [
  ("/draft/2019-09/schema", .later), ("/draft/2020-12/schema", .later)]

/-- The draft that a URL stands for. -/
def draftOfUrl? (url : Network.Url) : Option Draft :=
  if url.authority ≠ "json-schema.org" ∨ url.query ≠ "" ∨ url.fragment ≠ "" then none
  else if url.scheme = "http" then draftPaths.lookup url.path
  else if url.scheme = "https" then securePaths.lookup url.path
  else none

/-- The draft that a declared language stands for, if it is known. -/
def draftOfLanguage? : Json → Except CheckFailure (Option Draft)
  | .str text => ((Network.Url.split text).mapError .language).map draftOfUrl?
  | .arr _ | .obj _ => .error (.defect .wrongType)
  | other => if other.isTruthy then .error (.defect .notRecord) else .ok none

/-- The draft of a schema within one of another draft. -/
def draftOf (outer : Draft) (fields : List (String × Json)) : Except CheckFailure Draft :=
  match Json.field? fields languageField with
  | none => .ok outer
  | some language => (draftOfLanguage? language).map (·.getD outer)

/-- Why a schema is no schema. -/
inductive SchemaFault where
  /-- The schema is no record and no boolean. -/
  | notSchema (schema : Json)
  /-- The language is no text. -/
  | notLanguage (value : Json)
  /-- What should be a simple type or a list of them is neither. -/
  | notType (value : Json)
  /-- In the third draft a type is a text or a list. -/
  | notTextOrList (value : Json)
  /-- In the third draft the items of a list of types are texts and schemas. -/
  | notTextOrSchema (item : Json)
  /-- In the third draft the items of a list of types are not repeated. -/
  | repeated (items : Json)

/-- The wording of a fault. -/
def SchemaFault.message : SchemaFault → String
  | .notSchema schema => schema.quoted ++ " is not of type 'object', 'boolean'"
  | .notLanguage value => value.quoted ++ " is not of type 'string'"
  | .notType value => value.quoted ++ " is not valid under any of the given schemas"
  | .notTextOrList value => value.quoted ++ " is not of type 'string', 'array'"
  | .notTextOrSchema item => item.quoted ++ " is not of type 'string', \x7b'$ref': '#'\x7d"
  | .repeated items => items.quoted ++ " has non-unique elements"

/-- A single type. -/
def readType? (value : Json) : Option SimpleType := value.text?.bind SimpleType.ofName?

/-- Whether a value is a type, or a list of at least one without repetition. -/
def isTypeOrList : Json → Bool
  | .str name => (SimpleType.ofName? name).isSome
  | .arr items =>
    (items.mapM readType?).any fun types ↦ !types.isEmpty && decide types.Nodup
  | _ => false

/-- Whether an item occurs again in a list; values of different forms are different, except for
numbers of the same value. -/
def hasRepetition : List Json → Bool
  | [] => false
  | item :: rest => rest.any item.same || hasRepetition rest

mutual

/-- Whether a value is a schema of the third draft. -/
def isThird : Json → Bool
  | .obj fields => areThirdFields fields
  | _ => false

/-- Whether fields are those of a schema of the third draft. -/
def areThirdFields : List (String × Json) → Bool
  | [] => true
  | ("type", value) :: rest => isThirdType value && areThirdFields rest
  | ("$schema", .str _) :: rest => areThirdFields rest
  | ("$schema", _) :: _ => false
  | _ :: rest => areThirdFields rest

/-- Whether a value is a type of the third draft, or a list of types. -/
def isThirdType : Json → Bool
  | .str _ => true
  | .arr items => areThirdItems items && !hasRepetition items
  | _ => false

/-- Whether the items of a list are types of the third draft. -/
def areThirdItems : List Json → Bool
  | [] => true
  | .str _ :: rest => areThirdItems rest
  | item :: rest => isThird item && areThirdItems rest

end

/-- Whether a value can stand in a list of types of the third draft. -/
def isThirdItem (item : Json) : Bool := item.text?.isSome || isThird item

/-- The fault of a type of the third draft. -/
def thirdFault? : Json → Option SchemaFault
  | .str _ => none
  | .arr items =>
    match items.find? (!isThirdItem ·) with
    | some item => some (.notTextOrSchema item)
    | none => if hasRepetition items then some (.repeated (.arr items)) else none
  | value => some (.notTextOrList value)

/-- The fault of a type. -/
def typeFault? (draft : Draft) (value : Json) : Option SchemaFault :=
  if draft = .third then thirdFault? value
  else if isTypeOrList value then none
  else some (.notType value)

/-- The fault of the fields of a schema, that of the language first. -/
def fieldsFault? (draft : Draft) (fields : List (String × Json)) : Option SchemaFault :=
  match Json.field? fields languageField with
  | some (.str _) | none => (Json.field? fields "type").bind (typeFault? draft)
  | some language => some (.notLanguage language)

/-- Whether a value is of the type of a name. -/
def isOfNamed (draft : Draft) (name : String) (value : Json) : Except CheckFailure Bool :=
  if draft = .third ∧ name = "any" then .ok true
  else
    match SimpleType.ofName? name with
    | some type => .ok (type.holds draft value)
    | none => .error (.defect .unknownType)

mutual

/-- Whether a value matches a schema within one of another draft. -/
def matchesSchema (outer : Draft) (value : Json) : Json → Except CheckFailure Bool
  | .obj fields => (draftOf outer fields).bind fun draft ↦ matchesFields draft value fields
  | _ => .ok true

/-- Whether a value matches the fields of a schema. -/
def matchesFields (draft : Draft) (value : Json) :
    List (String × Json) → Except CheckFailure Bool
  | [] => .ok true
  | ("type", .str name) :: _ => isOfNamed draft name value
  | ("type", .arr items) :: _ => matchesItem draft value items
  | _ :: rest => matchesFields draft value rest

/-- Whether a value matches one of some types. Only the third draft can check schemas in their
place. -/
def matchesItem (draft : Draft) (value : Json) : List Json → Except CheckFailure Bool
  | [] => .ok false
  | .str name :: rest =>
    (isOfNamed draft name value).bind fun found ↦
      if found then .ok true else matchesItem draft value rest
  | item :: rest =>
    if draft = .third then
      (matchesSchema draft value item).bind fun found ↦
        if found then .ok true else matchesItem draft value rest
    else .error (.defect .wrongType)

end

end TenantBroker.Catalog
