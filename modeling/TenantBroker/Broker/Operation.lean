import TenantBroker.Broker.Failure
import TenantBroker.Tenant.Record
import TenantBroker.Tenant.Steps
import TenantBroker.Text.Case

/-!
# Operations of the broker

An instance is provisioned, deprovisioned, and asked after while either is under way. All three are
programs over cluster calls. The state of an instance is never stored: whether it is deployed is
read off the phase of its record, and whether it is removed off its namespace. `SPEC_FULL.md`,
section 0.
-/

namespace TenantBroker.Broker

open Cluster (Kind Program)

/-- What a caller is given to ask after a provision. -/
def deployOperation : String := "deploy"

/-- What a caller is given to ask after a deprovision. -/
def removeOperation : String := "remove"

/-- What a provision gives the caller. -/
structure Provisioned where
  operation : String
  dashboardUrl : String
  ns : String
  deriving DecidableEq

/-- The state of an operation. -/
inductive OperationState where
  | inProgress
  | succeeded
  | failed
  deriving DecidableEq

/-- The name of a state. -/
def OperationState.name : OperationState → String
  | .inProgress => "in progress"
  | .succeeded => "succeeded"
  | .failed => "failed"

/-- The state of an operation and its description. -/
structure Status where
  state : OperationState
  description : String
  deriving DecidableEq

def Status.deploying : Status := ⟨.inProgress, "rhpam is deploying"⟩
def Status.deployed : Status := ⟨.succeeded, "rhpam deployed successfully"⟩
def Status.deleting : Status := ⟨.inProgress, "rhpam is deleting"⟩
def Status.deleted : Status := ⟨.succeeded, "rhpam has been deleted"⟩

/-- The status of an operation that the broker never starts. -/
def Status.unknown (operation : String) : Status := ⟨.failed, "unknown operation: " ++ operation⟩

/-- A program that may fail. -/
abbrev Action (α : Type) := Program (Except Failure α)

/-- The namespace of an instance. -/
def instanceNamespace (config : Config) (instanceId : String) : Except Failure String :=
  (Tenant.namespaceFor config.namespacePrefix instanceId).mapError fun fault ↦
    .rejected (.name fault)

/-- Goes on with a value that is there, and ends with the failure where it is not. -/
def orFail {α β : Type} (value : Except Failure α) (next : α → Action β) : Action β :=
  match value with
  | .ok value => next value
  | .error f => .done (.error f)

/-- Finds the plan of two ids and checks parameters against it. -/
def checkPlan (service plan parameters : Json) : Except Failure Unit :=
  match Catalog.findPlan service plan with
  | .error fault => .error (.rejected (.offer fault))
  | .ok plan => (Catalog.validateParameters plan.toJson parameters).mapError Failure.ofParameters

/-- The plan is checked if at least one id is given. -/
def checkRequestedPlan (service plan parameters : Json) : Except Failure Unit :=
  match service, plan with
  | .null, .null => .ok ()
  | _, _ => checkPlan service plan parameters

/-- Makes the tenant of an instance for a user. -/
def provisionTenant (config : Config) (instanceId username : String) : Action Provisioned :=
  if username = "" then .done (.error (.rejected .noUsername))
  else orFail (instanceNamespace config instanceId) fun ns ↦
    (Pipeline.runPipeline instanceId
      (Tenant.provisionSteps ns username config config.variant)).map fun outcomes ↦
      match outcomes with
      | .error f => .error (.ofPipeline f)
      | .ok _ => .ok ⟨deployOperation, Tenant.dashboardUrl ns config.routeSuffix, ns⟩

/-- Provisions an instance for a user, with a plan and parameters where they are given. -/
def provision (config : Config) (instanceId username : String) (service plan parameters : Json) :
    Action Provisioned :=
  orFail (checkRequestedPlan service plan parameters) fun _ ↦
    provisionTenant config instanceId username

/-- Provisions an instance without a plan. -/
def provisionPlain (config : Config) (instanceId username : String) : Action Provisioned :=
  provision config instanceId username .null .null .null

/-- Deprovisions an instance; what is gone already counts as deleted. -/
def deprovision (config : Config) (instanceId : String) : Action String :=
  orFail (instanceNamespace config instanceId) fun ns ↦
    (Pipeline.runPipeline instanceId (Tenant.deprovisionSteps ns)).map fun outcomes ↦
      match outcomes with
      | .error f => .error (.ofPipeline f)
      | .ok _ => .ok removeOperation

/-- The first record of a tenant's development environment, if there is one. -/
def findRecord (ns : String) : Action (Option Tenant.Record) :=
  .call (.list Kind.developments (.str ns)) fun
    | .ok [] => .done (.ok none)
    | .ok (item :: _) => .done ((Tenant.Record.ofJson item).map some |>.mapError .defect)
    | .error f => .done (if f.isNotFound then .ok none else .error (.ofCluster f))

/-- The record of an instance, which has to be there. -/
def requireRecord (instanceId ns : String) : Action Tenant.Record :=
  (findRecord ns).andThen fun record ↦
    match record with
    | some record => .done (.ok record)
    | none => .done (.error (.missing instanceId))

/-- The phase of a finished deployment. -/
def completePhase : String := "complete"

/-- A record is complete if its phase says so in any letter case. -/
def isComplete (record : Tenant.Record) : Bool :=
  Text.lower (record.phase?.getD "") = completePhase

/-- The status of a deployment. -/
def deployStatus (instanceId ns : String) : Action Status :=
  (requireRecord instanceId ns).andThen fun record ↦
    .done (.ok (if isComplete record then .deployed else .deploying))

/-- The status of a removal. -/
def removeStatus (ns : String) : Action Status :=
  .call (.get Kind.namespaces (.str ns) .null) fun
    | .ok _ => .done (.ok .deleting)
    | .error f => .done (if f.isNotFound then .ok .deleted else .error (.ofCluster f))

/-- The status of an operation on an instance. -/
def lastOperation (config : Config) (instanceId operation : String) : Action Status :=
  orFail (instanceNamespace config instanceId) fun ns ↦
    if operation = deployOperation then deployStatus instanceId ns
    else if operation = removeOperation then removeStatus ns
    else (requireRecord instanceId ns).andThen fun _ ↦ .done (.ok (.unknown operation))

end TenantBroker.Broker
