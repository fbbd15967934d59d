import TenantBroker.Cluster.Program
import TenantBroker.Pipeline.Step

/-!
# Running a pipeline

A pipeline is a list of steps. The steps run strictly in order and the first failure ends the run;
nothing that was applied is taken back. A step that finds its work done already has changed nothing
and counts as run: a create that tolerates an existing object, a delete of an object that is not
there. Deleting all objects lists them and deletes them one by one. `SPEC_FULL.md`, section 6; that
nothing is taken back, and which steps tolerate what, sections 0 and 8.
-/

namespace TenantBroker.Pipeline

open Cluster (Call Cause Failure Kind Program)

/-- What a step did: whether it changed anything, and the names it created, deleted or found. -/
structure StepOutcome where
  step : Step
  changed : Bool
  names : List Json

/-- A step that failed for a cause: which resource, and for which instance. -/
structure StepFailure where
  kind : String
  name : Json
  instanceId : String
  action : StepAction
  cause : Cause

/-- The wording of a step that failed. -/
def StepFailure.message (f : StepFailure) : String :=
  "failed to " ++ f.action.name ++ " " ++ f.kind ++ " " ++ f.name.quoted ++ " for instance " ++
    f.instanceId ++ ": " ++ f.cause.message

/-- The object of the step existed already. -/
def StepFailure.isConflict (f : StepFailure) : Bool :=
  f.cause.category? = some .alreadyExists

/-- How a pipeline ends when it does not run through. -/
inductive PipelineFailure where
  | step (failure : StepFailure)
  | defect (what : Defect)

/-- The name under which an object was created: the one in its metadata, or else the label. -/
def createdName (step : Step) (created : Json) : Except Defect Json := do
  let name ← (← created.metadata).get "name"
  if name.isTruthy then pure name else step.label

/-- Creates the object of a step. -/
def runCreate (step : Step) : Program (Except Failure StepOutcome) :=
  match step.manifest with
  | none => .done (.error (.defect .missingPart))
  | some manifest => .call (.create step.kind manifest) fun
    | .ok created =>
      match createdName step created with
      | .ok name => .done (.ok ⟨step, true, [name]⟩)
      | .error d => .done (.error (.defect d))
    | .error f =>
      if f.isAlreadyExists && step.toleratesExisting then
        match step.label with
        | .ok label => .done (.ok ⟨step, false, [label]⟩)
        | .error d => .done (.error (.defect d))
      else .done (.error f)

/-- Deletes the object of a step. -/
def runDelete (step : Step) : Program (Except Failure StepOutcome) :=
  match step.name with
  | .null => .done (.error (.defect .missingPart))
  | name => .call (.delete step.kind name step.ns) fun
    | .ok () => .done (.ok ⟨step, true, [name]⟩)
    | .error f => if f.isNotFound then .done (.ok ⟨step, false, [name]⟩) else .done (.error f)

/-- The name of a listed object. -/
def listedName (item : Json) : Except Defect Json := do (← item.metadata).get "name"

/-- Deletes listed objects in order and tells which of them were there. Objects without a name are
passed over. -/
def deleteItems (kind : Kind) (ns : Json) : List Json → Program (Except Failure (List Json))
  | [] => .done (.ok [])
  | item :: rest =>
    match listedName item with
    | .error d => .done (.error (.defect d))
    | .ok name =>
      if name.isTruthy then
        .call (.delete kind name ns) fun
          | .ok () => (deleteItems kind ns rest).map fun outcome ↦ outcome.map (name :: ·)
          | .error f => if f.isNotFound then deleteItems kind ns rest else .done (.error f)
      else deleteItems kind ns rest

/-- Deletes all objects of a step's kind in its namespace. -/
def runDeleteAll (step : Step) : Program (Except Failure StepOutcome) :=
  .call (.list step.kind step.ns) fun
    | .ok items => (deleteItems step.kind step.ns items).map fun outcome ↦
        outcome.map fun deleted ↦ ⟨step, !deleted.isEmpty, deleted⟩
    | .error f => if f.isNotFound then .done (.ok ⟨step, false, []⟩) else .done (.error f)

/-- Does what a step is for. -/
def runAction (step : Step) : Program (Except Failure StepOutcome) :=
  match step.action with
  | .create => runCreate step
  | .delete => runDelete step
  | .deleteAll => runDeleteAll step

/-- A failure as the failure of a step: a cause is reported with the step, a defect is passed on.
-/
def failureOf (step : Step) (instanceId : String) : Failure → PipelineFailure
  | .defect d => .defect d
  | .cause cause =>
    match step.label with
    | .error d => .defect d
    | .ok label => .step ⟨step.kind.name, label, instanceId, step.action, cause⟩

/-- Runs a step. -/
def runStep (instanceId : String) (step : Step) : Program (Except PipelineFailure StepOutcome) :=
  (runAction step).map fun outcome ↦ outcome.mapError (failureOf step instanceId)

/-- Runs a pipeline. A step is announced under its label before it runs. -/
def runPipeline (instanceId : String) :
    List Step → Program (Except PipelineFailure (List StepOutcome))
  | [] => .done (.ok [])
  | step :: rest =>
    match step.label with
    | .error d => .done (.error (.defect d))
    | .ok _ => (runStep instanceId step).andThen fun outcome ↦
        (runPipeline instanceId rest).map fun outcomes ↦ outcomes.map (outcome :: ·)

end TenantBroker.Pipeline
