import TenantBroker.Json

/-!
# Records of a tenant

A record from the cluster is read as far as it goes: its version and kind, its name and namespace,
and all its other fields as they are (`SPEC_FULL.md`, section 5). The phase is the text under
`phase` in its status.
-/

namespace TenantBroker.Tenant

/-- A record of the cluster. What should be a text may be any value. -/
structure Record where
  apiVersion : Json
  kind : Json
  name : Json
  ns : Json
  fields : List (String × Json)

/-- The fields of a record that are not among its other fields. -/
def headFields : List String := ["apiVersion", "kind", "metadata"]

/-- Reads a record. -/
def Record.ofJson (object : Json) : Except Defect Record := do
  let metadata ← object.metadata
  let fields ← object.fields
  pure {
    apiVersion := ← object.getD "apiVersion" (.str "")
    kind := ← object.getD "kind" (.str "")
    name := ← metadata.getD "name" (.str "")
    ns := ← metadata.get "namespace"
    fields := fields.filter fun f ↦ !headFields.contains f.1 }

/-- The phase of a record, if its status is a record and the phase a text. -/
def Record.phase? (record : Record) : Option String :=
  match Json.field? record.fields "status" with
  | some (.obj status) => (Json.field? status "phase").bind Json.text?
  | _ => none

end TenantBroker.Tenant
