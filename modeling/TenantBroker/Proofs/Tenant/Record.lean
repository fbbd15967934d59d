import TenantBroker.Tenant.Record

/-!
# Reading a record

A record can be read exactly if its metadata are a record, or do not count as present. What it is
read for, its status, is the one that it shows.
-/

namespace TenantBroker.Tenant

/-- An object that can be read: its metadata are a record, or do not count as present. -/
def Readable (object : Json) : Prop := ∃ inner, object.metadata = .ok (.obj inner)

/-- The object has a status with a text for its phase. -/
def ShowsPhase (object : Json) (phase : String) : Prop :=
  ∃ fields status, object = .obj fields ∧ Json.field? fields "status" = some (.obj status) ∧
    Json.field? status "phase" = some (.str phase)

/-- Leaving out fields of other names does not change a field. -/
theorem field?_filter (keep : String → Bool) {name : String} (hkeep : keep name = true)
    (fields : List (String × Json)) :
    Json.field? (fields.filter fun f ↦ keep f.1) name = Json.field? fields name := by
  unfold Json.field?
  rw [List.find?_filter]
  congr 2
  funext f
  by_cases hname : f.1 = name
  · simp [hname, hkeep]
  · simp [hname]

/-- What has metadata is a record. -/
theorem exists_fields_of_metadata {object metadata : Json} (h : object.metadata = .ok metadata) :
    ∃ fields, object = .obj fields := by
  cases object with
  | obj fields => exact ⟨fields, rfl⟩
  | _ => cases h

/-- An object that can be read is a record. -/
theorem Readable.exists_fields {object : Json} (h : Readable object) :
    ∃ fields, object = .obj fields := by
  obtain ⟨inner, hinner⟩ := h
  exact exists_fields_of_metadata hinner

/-- A readable object is read with its status. -/
theorem Record.ofJson_ok {fields : List (String × Json)} (h : Readable (.obj fields)) :
    ∃ record, Record.ofJson (.obj fields) = .ok record ∧
      Json.field? record.fields "status" = Json.field? fields "status" := by
  obtain ⟨inner, hinner⟩ := h
  refine ⟨{
    apiVersion := (Json.field? fields "apiVersion").getD (.str "")
    kind := (Json.field? fields "kind").getD (.str "")
    name := (Json.field? inner "name").getD (.str "")
    ns := (Json.field? inner "namespace").getD .null
    fields := fields.filter fun f ↦ !headFields.contains f.1 }, ?_,
    field?_filter (!headFields.contains ·) (by decide) fields⟩
  simp only [Record.ofJson, hinner, Json.getD, Json.get, Json.fields, Bind.bind, Except.bind,
    Except.map]
  rfl

/-- An object that is not readable is not read. -/
theorem Record.ofJson_error {object : Json} (h : ¬ Readable object) :
    ∃ d, Record.ofJson object = .error d := by
  cases hmetadata : object.metadata with
  | error d => exact ⟨d, by simp only [Record.ofJson, hmetadata, Bind.bind, Except.bind]⟩
  | ok metadata =>
    obtain ⟨fields, rfl⟩ := exists_fields_of_metadata hmetadata
    cases metadata with
    | obj inner => exact absurd ⟨inner, hmetadata⟩ h
    | _ =>
      simp only [Record.ofJson, hmetadata, Json.getD, Json.fields, Bind.bind, Except.bind,
        Except.map]
      exact ⟨_, rfl⟩

private theorem text?_eq_some_iff {value : Json} {text : String} :
    value.text? = some text ↔ value = .str text := by
  cases value <;> simp [Json.text?]

/-- The phase of a record that was read is the one that its object shows. -/
theorem Record.phase?_eq_some_iff {fields : List (String × Json)} {record : Record}
    (h : Json.field? record.fields "status" = Json.field? fields "status") {phase : String} :
    record.phase? = some phase ↔ ShowsPhase (.obj fields) phase := by
  have hunfold : ShowsPhase (.obj fields) phase ↔ ∃ status,
      Json.field? fields "status" = some (.obj status) ∧
        Json.field? status "phase" = some (.str phase) := by
    constructor
    · rintro ⟨fields', status, hfields, h⟩
      obtain rfl := Json.obj.inj hfields
      exact ⟨status, h⟩
    · rintro ⟨status, h⟩
      exact ⟨fields, status, rfl, h⟩
  rw [hunfold, Record.phase?, h]
  cases Json.field? fields "status" with
  | none => simp
  | some status =>
    cases status with
    | obj status => simp [Option.bind_eq_some_iff, text?_eq_some_iff]
    | _ => simp

end TenantBroker.Tenant
