import TenantBroker.Json

/-!
# Names of objects

An object is named by a text or by a number; null names nothing, and lists and records cannot be
names. Two numbers are one name if they have the same value, and truth values count as the numbers
one and zero. Texts are ordered by their characters and numbers by value; a text and a number have
no order.
-/

namespace TenantBroker.Cluster

/-- What names an object. Numbers are in the form in which equal values are equal. -/
inductive Name where
  | text (value : String)
  | number (value : Number)
  deriving DecidableEq

namespace Name

/-- The name that a value is; none for null. -/
def ofJson : Json → Except Defect (Option Name)
  | .null => .ok none
  | .bool value => .ok (some (.number (.int (if value then 1 else 0))))
  | .num value => .ok (some (.number value.canonical))
  | .str value => .ok (some (.text value))
  | .arr _ | .obj _ => .error .wrongType

/-- Whether a value is a name, or for none whether it is null. -/
def isNamedBy (name : Option Name) (value : Json) : Bool :=
  match ofJson value with
  | .ok other => name = other
  | .error _ => false

/-- A name as a value. -/
def toJson : Name → Json
  | .text value => .str value
  | .number value => .num value

/-- Whether two names have an order. -/
def comparable : Name → Name → Bool
  | .text _, .text _ | .number _, .number _ => true
  | _, _ => false

/-- The order of names. -/
def le : Name → Name → Bool
  | .text a, .text b => a ≤ b
  | .number a, .number b => !b.lt a
  | .text _, .number _ => true
  | .number _, .text _ => false

/-- Whether names can be put in order. -/
def sortable (names : List Name) : Bool := names.all fun a ↦ names.all a.comparable

/-- A text is the name it says. -/
@[simp] theorem ofJson_str (value : String) :
    ofJson (.str value) = .ok (some (.text value)) := rfl

end Name

end TenantBroker.Cluster
