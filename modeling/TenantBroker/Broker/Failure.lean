import TenantBroker.Catalog
import TenantBroker.Catalog.Parameters
import TenantBroker.Config
import TenantBroker.Identity
import TenantBroker.Pipeline.Run
import TenantBroker.Tenant.Naming

/-!
# Failures of the broker

A request is rejected for what it says, or it fails for what the cluster does. A failed command of
the cluster reaches the caller as the failure of a step where a pipeline ran, and as it is where
only the state was asked for. The classes of failures are in `SPEC_FULL.md`, section 3.
-/

namespace TenantBroker.Broker

/-- Why a request is rejected. -/
inductive Rejection where
  | name (fault : Tenant.NameFault)
  | noUsername
  | offer (fault : Catalog.OfferFault)
  | parameters (fault : Catalog.ParameterFault)
  | identity (fault : Identity.Fault)

/-- The wording of a rejection. -/
def Rejection.message : Rejection → String
  | .name fault => fault.message
  | .noUsername => "an originating identity is required to provision an instance"
  | .offer fault => fault.message
  | .parameters fault => fault.message
  | .identity fault => fault.message

/-- How an operation ends when it does not succeed. -/
inductive Failure where
  | rejected (why : Rejection)
  /-- The record of an instance is not there. -/
  | missing (instanceId : String)
  /-- The caller does not accept an answer before the work is done. -/
  | asyncRequired
  | configuration (fault : ConfigFault)
  | step (failure : Pipeline.StepFailure)
  | cluster (why : Cluster.Cause)
  | defect (what : Defect)

/-- The wording of a failure; a defect has none. -/
def Failure.message? : Failure → Option String
  | .rejected why => some why.message
  | .missing instanceId =>
    some (Cluster.Kind.developments.name ++ " for instance " ++ instanceId ++ " not found")
  | .asyncRequired =>
    some "This service plan requires client support for asynchronous service operations."
  | .configuration fault => some fault.message
  | .step failure => some failure.message
  | .cluster why => some why.message
  | .defect _ => none

/-- A failure of the cluster as a failure of the broker. -/
def Failure.ofCluster : Cluster.Failure → Failure
  | .cause why => .cluster why
  | .defect d => .defect d

/-- A failure of a pipeline as a failure of the broker. -/
def Failure.ofPipeline : Pipeline.PipelineFailure → Failure
  | .step failure => .step failure
  | .defect d => .defect d

/-- A failure of a check of parameters as a failure of the broker. -/
def Failure.ofParameters : Catalog.ParameterFailure → Failure
  | .refused fault => .rejected (.parameters fault)
  | .check (.language fault) => .cluster (.value (.refused fault.message))
  | .check (.defect d) => .defect d

end TenantBroker.Broker
