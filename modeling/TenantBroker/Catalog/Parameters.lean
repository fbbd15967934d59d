import TenantBroker.Catalog.Schema
import TenantBroker.Text.Occurrence

/-!
# Parameters of an instance

The parameters for a new instance have to match the schema that the plan has for them. Before that,
the schema itself is checked. A plan without a schema asks for nothing.
-/

namespace TenantBroker.Catalog

/-- Why parameters are refused. -/
inductive ParameterFault where
  | mismatch (value : Json) (types : List Json)
  | badSchema (plan : Json) (fault : SchemaFault)

/-- The wording of a fault. -/
def ParameterFault.message : ParameterFault → String
  | .mismatch value types =>
    "parameters are invalid: " ++ value.quoted ++ " is not of type " ++
      ", ".intercalate (types.map Json.quoted)
  | .badSchema plan fault =>
    "plan " ++ plan.quoted ++ " has an invalid parameters schema: " ++ fault.message

/-- How a check of parameters ends when it does not succeed. -/
inductive ParameterFailure where
  | refused (fault : ParameterFault)
  | check (failure : CheckFailure)

/-- The schema that a plan has for the parameters of a new instance. -/
def planSchema (plan : Json) : Except Defect Json := do
  let schemas ← plan.getD "schemas" (.obj [])
  let forInstance ← schemas.getD "service_instance" (.obj [])
  let forCreate ← forInstance.getD "create" (.obj [])
  forCreate.get "parameters"

/-- A defect in a check. -/
def ParameterFailure.ofDefect (d : Defect) : ParameterFailure := .check (.defect d)

/-- The failure that a fault of the schema of a plan is. -/
def refuseSchema (plan : Json) (fault : SchemaFault) : ParameterFailure :=
  match plan.get "id" with
  | .ok id => .refused (.badSchema id fault)
  | .error d => .ofDefect d

/-- The types of a schema, one or several. -/
def typesOf (fields : List (String × Json)) : List Json :=
  match Json.field? fields "type" with
  | some (.arr items) => items
  | some value => [value]
  | none => []

/-- The failure of a value that does not match: the types are named if all of them have names. -/
def refuseValue (value : Json) (types : List Json) : ParameterFailure :=
  if types.all (·.text?.isSome) then .refused (.mismatch value types) else .ofDefect .wrongType

/-- Checks a value against the fields of a schema. -/
def checkFields (plan value : Json) (fields : List (String × Json)) :
    Except ParameterFailure Unit := do
  let draft ← (draftOf .later fields).mapError .check
  if let some fault := fieldsFault? draft fields then throw (refuseSchema plan fault)
  if !(← (matchesFields draft value fields).mapError .check) then
    throw (refuseValue value (typesOf fields))

/-- Whether a value, while no record, seems to declare a language: it has the name of that field as
a part of its text or as an item. -/
def mentionsLanguage : Json → Bool
  | .str text => Text.occursIn languageField.toList text.toList
  | .arr items => items.any (·.text? = some languageField)
  | _ => false

/-- Checks a value against a schema of a plan. A number is not even looked into. -/
def checkAgainst (plan schema value : Json) : Except ParameterFailure Unit :=
  match schema with
  | .bool _ => .ok ()
  | .obj fields => checkFields plan value fields
  | .num _ => .error (.ofDefect .wrongType)
  | other =>
    if mentionsLanguage other then .error (.ofDefect .wrongType)
    else .error (refuseSchema plan (.notSchema other))

/-- Checks the parameters for a new instance of a plan. A schema that does not count as present
asks for nothing; null stands for the empty record. -/
def validateParameters (plan parameters : Json) : Except ParameterFailure Unit :=
  match planSchema plan with
  | .error d => .error (.ofDefect d)
  | .ok schema =>
    if schema.isTruthy then
      checkAgainst plan schema (match parameters with | .null => .obj [] | other => other)
    else .ok ()

end TenantBroker.Catalog
