import TenantBroker.Json
import TenantBroker.Number.Reading

/-!
# Values that have a text

A whole number of more than 4300 digits has no text: it can neither be written nor shown in a
message, and no value that holds one can. Every other value has a text.
-/

namespace TenantBroker

/-- Whether a number has a text: a whole number has one up to the greatest number of digits. -/
def Number.isWritable : Number → Bool
  | .int value => value.natAbs < Nat.pow 10 maxDigits
  | .real _ => true

namespace Json

mutual

/-- Whether a value has a text. -/
def isWritable : Json → Bool
  | .null => true
  | .bool _ => true
  | .num value => value.isWritable
  | .str _ => true
  | .arr items => areWritable items
  | .obj fields => haveWritable fields

/-- Whether all items of a list have a text. -/
def areWritable : List Json → Bool
  | [] => true
  | value :: rest => isWritable value && areWritable rest

/-- Whether the values of all fields have a text. -/
def haveWritable : List (String × Json) → Bool
  | [] => true
  | (_, value) :: rest => isWritable value && haveWritable rest

end

@[simp] theorem isWritable_null : isWritable .null = true := rfl

@[simp] theorem isWritable_str (value : String) : isWritable (.str value) = true := rfl

/-- A list has a text if its items do. -/
@[simp] theorem isWritable_arr {items : List Json} :
    isWritable (.arr items) = true ↔ ∀ item ∈ items, item.isWritable = true := by
  show areWritable items = true ↔ _
  induction items with
  | nil => simp [areWritable]
  | cons item rest ih => simp [areWritable, ih]

/-- A record has a text if the values of its fields do. -/
@[simp] theorem isWritable_obj {fields : List (String × Json)} :
    isWritable (.obj fields) = true ↔ ∀ field ∈ fields, field.2.isWritable = true := by
  show haveWritable fields = true ↔ _
  induction fields with
  | nil => simp [haveWritable]
  | cons field rest ih => simp [haveWritable, ih]

/-- A list of texts has a text. -/
@[simp] theorem isWritable_strings (values : List String) : (strings values).isWritable = true := by
  simp [strings]

/-- A whole number of few digits has a text. -/
theorem isWritable_int {value : Int} {digits : Nat} (h : value.natAbs < Nat.pow 10 digits)
    (hdigits : digits ≤ Number.maxDigits) : (Json.int value).isWritable = true := by
  have hlimit : value.natAbs < Nat.pow 10 Number.maxDigits := by
    generalize Number.maxDigits = most at hdigits ⊢
    exact Nat.lt_of_lt_of_le h (Nat.pow_le_pow_right (by decide) hdigits)
  simp only [Json.int, isWritable, Number.isWritable, decide_eq_true_eq]
  exact hlimit

variable {record value default : Json} {name : String}

/-- A field of a record that has a text has one, if what stands in for a missing field has. -/
theorem isWritable_getD (h : record.isWritable = true) (hdefault : default.isWritable = true)
    (hvalue : record.getD name default = .ok value) : value.isWritable = true := by
  cases record with
  | obj fields =>
    obtain rfl := Except.ok.inj hvalue
    cases hfound : fields.find? fun f ↦ f.1 == name with
    | none => simpa [field?, hfound] using hdefault
    | some field =>
      simpa [field?, hfound] using isWritable_obj.mp h field (List.mem_of_find?_eq_some hfound)
  | _ => cases hvalue

/-- The metadata of a record that has a text have one. -/
theorem isWritable_metadata (h : record.isWritable = true) (hvalue : record.metadata = .ok value) :
    value.isWritable = true := by
  unfold metadata at hvalue
  cases hfound : record.get "metadata" with
  | error d => rw [hfound] at hvalue; cases hvalue
  | ok found =>
    rw [hfound] at hvalue
    obtain rfl := Except.ok.inj hvalue
    show (if found.isTruthy then found else .obj []).isWritable = true
    split
    · exact isWritable_getD h isWritable_null hfound
    · rfl

end Json

end TenantBroker
