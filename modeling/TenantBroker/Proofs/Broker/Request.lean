import TenantBroker.Broker.Operation
import TenantBroker.Proofs.Cluster.Calls
import TenantBroker.Proofs.Tenant.Parts

/-!
# Requests to the broker

The three operations as one type of requests, with one type of answers. A request is a program,
whose calls are those of one of the two pipelines, or only look at the cluster.
-/

namespace TenantBroker.Broker

open Cluster (Call Program)
open Cluster.Program

/-- What the broker can be asked to do. -/
inductive Request where
  | provision (instanceId username : String) (service plan parameters : Json)
  | deprovision (instanceId : String)
  | lastOperation (instanceId operation : String)

/-- The instance that a request is about. -/
def Request.instanceId : Request → String
  | .provision instanceId _ _ _ _ => instanceId
  | .deprovision instanceId => instanceId
  | .lastOperation instanceId _ => instanceId

/-- How a request ends. -/
inductive Answer where
  | provisioned (outcome : Except Failure Provisioned)
  | deprovisioned (outcome : Except Failure String)
  | status (outcome : Except Failure Status)

/-- The program that a request is. -/
def Request.program (config : Config) : Request → Program Answer
  | .provision instanceId username service plan parameters =>
    (Broker.provision config instanceId username service plan parameters).map .provisioned
  | .deprovision instanceId => (Broker.deprovision config instanceId).map .deprovisioned
  | .lastOperation instanceId operation =>
    (Broker.lastOperation config instanceId operation).map .status

/-! ## The calls of a request -/

variable {P : Call → Prop} {config : Config}

/-- A failed check makes no call. -/
theorem only_orFail {α β : Type} {value : Except Failure α} {next : α → Action β}
    (h : ∀ a, value = .ok a → (next a).Only P) : (orFail value next).Only P := by
  cases value with
  | ok a => exact h a rfl
  | error f => trivial

/-- A check before a program adds its failures to what the program yields. -/
theorem yields_orFail {α β : Type} {Q : Except Failure β → Prop} {value : Except Failure α}
    {next : α → Action β} (hok : ∀ a, value = .ok a → (next a).Yields Q)
    (herror : ∀ f, value = .error f → Q (.error f)) : (orFail value next).Yields Q := by
  cases value with
  | ok a => exact hok a rfl
  | error f => exact herror f rfl

/-- Asking for the record of an instance makes no call but a list. -/
theorem only_requireRecord (h : ∀ kind ns, P (.list kind ns)) (instanceId ns : String) :
    (requireRecord instanceId ns).Only P := by
  refine only_andThen ⟨h _ _, fun reply ↦ ?_⟩ fun record ↦ ?_
  · rcases reply with f | _ | ⟨item, rest⟩
    · trivial
    · trivial
    · trivial
  · cases record with
    | none => trivial
    | some record => trivial

/-- Asking for a status only looks at the cluster. -/
theorem only_lastOperation (hget : ∀ kind name ns, P (.get kind name ns))
    (hlist : ∀ kind ns, P (.list kind ns)) (instanceId operation : String) :
    (lastOperation config instanceId operation).Only P := by
  apply only_orFail
  intro ns _
  split
  · exact only_andThen (only_requireRecord hlist instanceId ns) fun _ ↦ trivial
  · split
    · refine ⟨hget _ _ _, fun reply ↦ ?_⟩
      cases reply with
      | ok object => trivial
      | error f => trivial
    · exact only_andThen (only_requireRecord hlist instanceId ns) fun _ ↦ trivial

/-- A provision makes the calls of the pipeline that makes the tenant. -/
theorem only_provision {instanceId username : String} (service plan parameters : Json)
    (h : ∀ ns, Tenant.namespaceFor config.namespacePrefix instanceId = .ok ns →
      ∀ step ∈ Tenant.provisionSteps ns username config config.variant, step.Makes P) :
    (provision config instanceId username service plan parameters).Only P := by
  refine only_orFail fun _ _ ↦ ?_
  unfold provisionTenant
  split
  · trivial
  · exact only_orFail fun ns hns ↦
      only_map (Pipeline.only_runPipeline instanceId (h ns (mapError_eq_ok_iff.mp hns)))

/-- A deprovision makes the calls of the pipeline that removes the tenant, while the replies are of
some sort. -/
theorem onlyUnder_deprovision {R : (c : Call) → Except Cluster.Failure c.Reply → Prop}
    {instanceId : String}
    (h : ∀ ns, Tenant.namespaceFor config.namespacePrefix instanceId = .ok ns →
      ∀ step ∈ Tenant.deprovisionSteps ns, step.MakesUnder R P) :
    (deprovision config instanceId).OnlyUnder R P := by
  unfold deprovision orFail
  cases hns : instanceNamespace config instanceId with
  | error f => trivial
  | ok ns =>
    exact onlyUnder_map
      (Pipeline.onlyUnder_runPipeline instanceId (h ns (mapError_eq_ok_iff.mp hns)))

/-- A deprovision makes the calls of the pipeline that removes the tenant, whatever the replies. -/
theorem only_deprovision {instanceId : String}
    (h : ∀ ns, Tenant.namespaceFor config.namespacePrefix instanceId = .ok ns →
      ∀ step ∈ Tenant.deprovisionSteps ns, step.Makes P) :
    (deprovision config instanceId).Only P :=
  onlyUnder_true.mp (onlyUnder_deprovision fun ns hns step hstep ↦ (h ns hns step hstep).under)

/-- A request makes the calls of one of the two pipelines of its tenant, or only looks at the
cluster. -/
theorem only_program (request : Request)
    (hprovision : ∀ ns username,
      Tenant.namespaceFor config.namespacePrefix request.instanceId = .ok ns →
      ∀ step ∈ Tenant.provisionSteps ns username config config.variant, step.Makes P)
    (hdeprovision : ∀ ns,
      Tenant.namespaceFor config.namespacePrefix request.instanceId = .ok ns →
      ∀ step ∈ Tenant.deprovisionSteps ns, step.Makes P)
    (hget : ∀ kind name ns, P (.get kind name ns)) (hlist : ∀ kind ns, P (.list kind ns)) :
    (request.program config).Only P := by
  cases request with
  | provision instanceId username service plan parameters =>
    exact only_map (only_provision service plan parameters fun ns hns ↦ hprovision ns username hns)
  | deprovision instanceId => exact only_map (only_deprovision hdeprovision)
  | lastOperation instanceId operation =>
    exact only_map (only_lastOperation hget hlist instanceId operation)

/-- All calls of a request are orderly. -/
theorem orderly_program (config : Config) (r : Request) : (r.program config).Only Call.Orderly :=
  only_program r (fun _ _ _ ↦ Tenant.orderly_provisionSteps)
    (fun ns _ ↦ Tenant.orderly_deprovisionSteps ns) (fun _ _ _ ↦ trivial) (fun _ _ ↦ trivial)

/-! ## Runs of a request -/

variable {σ : Type} {handler : Cluster.Handler σ} {s t : σ} {instanceId ns : String}

/-- A provision that is accepted is its pipeline, with the answer made of what this comes to. -/
theorem provision_eq {username : String} {service plan parameters : Json}
    (hns : Tenant.namespaceFor config.namespacePrefix instanceId = .ok ns) (huser : username ≠ "")
    (hplan : checkRequestedPlan service plan parameters = .ok ()) :
    provision config instanceId username service plan parameters =
      (Pipeline.runPipeline instanceId
        (Tenant.provisionSteps ns username config config.variant)).map fun outcomes ↦
        match outcomes with
        | .error f => .error (.ofPipeline f)
        | .ok _ => .ok ⟨deployOperation, Tenant.dashboardUrl ns config.routeSuffix, ns⟩ := by
  unfold provision provisionTenant
  rw [hplan, if_neg huser, instanceNamespace, hns]
  rfl

/-- A deprovision that is accepted is its pipeline, with the answer made of what this comes to. -/
theorem deprovision_eq (hns : Tenant.namespaceFor config.namespacePrefix instanceId = .ok ns) :
    deprovision config instanceId =
      (Pipeline.runPipeline instanceId (Tenant.deprovisionSteps ns)).map fun outcomes ↦
        match outcomes with
        | .error f => .error (.ofPipeline f)
        | .ok _ => .ok removeOperation := by
  unfold deprovision
  rw [instanceNamespace, hns]
  rfl

/-- A deprovision succeeds with its pipeline. -/
theorem run_deprovision (hns : Tenant.namespaceFor config.namespacePrefix instanceId = .ok ns)
    (h : Succeeds handler (Pipeline.runPipeline instanceId (Tenant.deprovisionSteps ns)) s t) :
    (deprovision config instanceId).run handler s = (.ok removeOperation, t) := by
  obtain ⟨outcomes, hrun⟩ := h
  simp only [deprovision, orFail, instanceNamespace, hns, mapError_ok, run_map, hrun]

end TenantBroker.Broker
