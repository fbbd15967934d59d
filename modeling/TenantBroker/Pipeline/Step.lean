import TenantBroker.Cluster.Kind
import TenantBroker.Json.Shown

/-!
# Steps

A step creates one object from a manifest, deletes one by name, or deletes all objects of a kind in
a namespace. Names and namespaces are taken from manifests as they are; null stands for none.
`SPEC_FULL.md`, section 6.
-/

namespace TenantBroker.Pipeline

open Cluster (Kind)

/-- What a step does. -/
inductive StepAction where
  | create
  | delete
  | deleteAll
  deriving DecidableEq

/-- The name of an action. -/
def StepAction.name : StepAction → String
  | .create => "create"
  | .delete => "delete"
  | .deleteAll => "delete-all"

/-- A step of a pipeline. -/
structure Step where
  action : StepAction
  kind : Kind
  ns : Json := .null
  name : Json := .null
  manifest : Option Json := none
  toleratesExisting : Bool := false

namespace Step

/-- The label that a manifest gives: its name, or the stem of the one to be generated with a star.
-/
def manifestLabel (manifest : Json) : Except Defect Json := do
  let metadata ← manifest.metadata
  let name ← metadata.get "name"
  if name.isTruthy then pure name
  else pure (.str ((← metadata.getD "generateName" (.str "")).shown ++ "*"))

/-- What a step is called in messages. -/
def label (step : Step) : Except Defect Json :=
  if step.name.isTruthy then .ok step.name
  else
    match step.manifest with
    | some manifest => manifestLabel manifest
    | none => .ok (.str ("*/" ++ step.ns.shown))

/-- A field of the metadata of a manifest; null where the manifest has no such field. -/
def metadataField (manifest : Json) (name : String) : Json :=
  match manifest.metadata >>= (·.get name) with
  | .ok value => value
  | .error _ => .null

/-- The step that creates an object, with the namespace and the name that its manifest gives. -/
def ofManifest (kind : Kind) (manifest : Json) (toleratesExisting : Bool) : Step :=
  ⟨.create, kind, metadataField manifest "namespace", metadataField manifest "name", some manifest,
    toleratesExisting⟩

/-- The step that creates an object from a manifest, if the manifest and its metadata are records.
-/
def create (kind : Kind) (manifest : Json) (toleratesExisting : Bool) : Except Defect Step := do
  let metadata ← manifest.metadata
  let _ ← metadata.fields
  pure (ofManifest kind manifest toleratesExisting)

/-- The step that deletes an object by name. -/
def delete (kind : Kind) (name ns : Json) : Step :=
  { action := .delete, kind, ns, name }

/-- The step that deletes all objects of a kind in a namespace. -/
def deleteAll (kind : Kind) (ns : Json) : Step :=
  { action := .deleteAll, kind, ns }

end Step

end TenantBroker.Pipeline
