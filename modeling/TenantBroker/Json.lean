import TenantBroker.Defect
import TenantBroker.Number

/-!
# JSON values

Manifests, records and request bodies are JSON values. The fields of an object keep the order in
which they were first set, since texts and listings show it, and each name occurs once: setting a
field again replaces its value in place.
-/

namespace TenantBroker

/-- A JSON value. -/
inductive Json where
  | null
  | bool (value : Bool)
  | num (value : Number)
  | str (value : String)
  | arr (items : List Json)
  | obj (fields : List (String × Json))

namespace Json

/-- A whole number. -/
def int (value : Int) : Json := .num (.int value)

/-- A list of texts. -/
def strings (values : List String) : Json := .arr (values.map .str)

/-- The value of a field in a list of fields. -/
def field? (fields : List (String × Json)) (name : String) : Option Json :=
  (fields.find? fun f ↦ f.1 == name).map (·.2)

/-- Sets a field: in place if it is there, at the end otherwise. -/
def setField : List (String × Json) → String → Json → List (String × Json)
  | [], name, value => [(name, value)]
  | f :: rest, name, value =>
    if f.1 = name then (name, value) :: rest else f :: setField rest name value

/-- Whether a value counts as present: null, false, zero and everything empty do not. -/
def isTruthy : Json → Bool
  | .null => false
  | .bool value => value
  | .num value => value.isNonzero
  | .str value => value != ""
  | .arr items => !items.isEmpty
  | .obj fields => !fields.isEmpty

/-- The first value if it counts as present, the second otherwise. -/
def orElse (value other : Json) : Json := if value.isTruthy then value else other

/-- The fields of a record. -/
def fields : Json → Except Defect (List (String × Json))
  | .obj fields => .ok fields
  | _ => .error .notRecord

/-- A field of a record, with a value for the case that the record lacks it. -/
def getD (value : Json) (name : String) (default : Json) : Except Defect Json :=
  value.fields.map fun fields ↦ (field? fields name).getD default

/-- A field of a record, null if the record lacks it. -/
def get (value : Json) (name : String) : Except Defect Json := value.getD name .null

/-- The metadata of a record; the empty record stands in for metadata that do not count as present.
-/
def metadata (value : Json) : Except Defect Json :=
  (value.get "metadata").map (·.orElse (.obj []))

/-- The text of a text value. -/
def text? : Json → Option String
  | .str value => some value
  | _ => none

/-- The whole number that a number or a truth value is, if it is one. -/
def wholeValue? : Json → Option Int
  | .bool value => some (if value then 1 else 0)
  | .num value => value.wholeValue?
  | _ => none

mutual

/-- Whether two values are equal: numbers by value, records whatever the order of their fields. -/
def same : Json → Json → Bool
  | .null, .null => true
  | .bool a, .bool b => a = b
  | .num a, .num b => a.canonical = b.canonical
  | .str a, .str b => a = b
  | .arr a, .arr b => sameItems a b
  | .obj a, .obj b => a.length = b.length && sameFields a b
  | _, _ => false

/-- Whether two lists are equal. -/
def sameItems : List Json → List Json → Bool
  | [], [] => true
  | a :: rest, b :: rest' => same a b && sameItems rest rest'
  | _, _ => false

/-- Whether other fields hold equal values. -/
def sameFields : List (String × Json) → List (String × Json) → Bool
  | [], _ => true
  | (name, a) :: rest, others => (field? others name).any (same a) && sameFields rest others

end

/-- Setting a field makes it readable. -/
theorem field?_setField_self (fs : List (String × Json)) (name : String) (value : Json) :
    field? (setField fs name value) name = some value := by
  induction fs with
  | nil => simp [setField, field?]
  | cons f rest ih =>
    by_cases h : f.1 = name
    · simp [setField, field?, h]
    · simpa [setField, field?, h] using ih

/-- Setting a field leaves every other one as it was. -/
theorem field?_setField_of_ne (fs : List (String × Json)) {name other : String} (value : Json)
    (h : other ≠ name) : field? (setField fs name value) other = field? fs other := by
  induction fs with
  | nil => simp [setField, field?, Ne.symm h]
  | cons f rest ih =>
    by_cases hf : f.1 = name
    · simp [setField, field?, hf, Ne.symm h]
    · by_cases ho : f.1 = other
      · subst ho
        simp [setField, field?, hf]
      · simpa [setField, field?, hf, ho] using ih

end Json

end TenantBroker
