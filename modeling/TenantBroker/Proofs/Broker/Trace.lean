import TenantBroker.Proofs.Broker.Request
import TenantBroker.Proofs.Pipeline.Trace
import TenantBroker.Proofs.Tenant.Creation

/-!
# What a provision runs

Behind kubectl a provision that is accepted runs commands for the steps that make the tenant, in
blocks and in their order, and it is decided by the last run of each block whether it goes on.
-/

namespace TenantBroker.Broker

open Cluster.Program
open Kubectl (Client Ran)
open Pipeline (Block CreatesIn)
open Tenant (IsPart createStep namespaceFor provisionSteps)

variable {config : Config} {instanceId ns username : String} {service plan parameters : Json}

/-- The step that makes a part of a tenant creates it if its manifest can be written, and tolerates
existing role bindings. -/
theorem createsIn_of_isPart {part : Cluster.Kind × Json} (h : IsPart ns part)
    (hwritable : part.2.isWritable = true) : CreatesIn ns (createStep part) := by
  obtain ⟨fields, hmetadata, hplace⟩ := h.metadata
  obtain ⟨display, hsubmission⟩ := Kubectl.submission_ok hmetadata hwritable
  refine ⟨rfl, h.label, ⟨part.2, _, display, rfl, hsubmission, fun hkind ↦ ?_⟩, ?_⟩
  · rw [hplace hkind]
    rfl
  · exact decide_eq_true_iff

/-- The runs of a provision fall into blocks for the first of the steps that make the tenant. Every
run of a block submits the manifest of its step, in the namespace if the kind has one, and there are
as many as there may be attempts at most. A block that another one follows has passed. The provision
succeeds exactly if every step has a block that has passed. Otherwise one block has not, and the
failure is that of its step. -/
theorem provision_trace
    (htimeout : ∃ negative significand exponent,
      config.stepTimeout = .finite negative significand exponent)
    (hns : namespaceFor config.namespacePrefix instanceId = .ok ns) (huser : username ≠ "")
    (hplan : checkRequestedPlan service plan parameters = .ok ()) (s : Kubectl.Session) :
    let after := (provision config instanceId username service plan parameters).run
      (Client.ofConfig config).handle s
    let steps := provisionSteps ns username config config.variant
    ∃ blocks : List Block,
      Ran s (blocks.flatMap Block.ended) after.2 ∧
      blocks.map Block.step <+: steps ∧
      (∀ b ∈ blocks, b.Submits (Client.ofConfig config) ns) ∧
      (∀ b ∈ blocks.dropLast, b.Passes) ∧
      ((∃ given, after.1 = .ok given) ↔
        blocks.map Block.step = steps ∧ ∀ b ∈ blocks, b.Passes) ∧
      (after.1 = .ok ⟨deployOperation, Tenant.dashboardUrl ns config.routeSuffix, ns⟩ ∨
        ∃ b ∈ blocks, ¬ b.Passes) ∧
      ∀ b ∈ blocks, ¬ b.Passes → ∃ f, b.Breaks instanceId f ∧ after.1 = .error (.ofPipeline f) := by
  intro after steps
  obtain ⟨negative, significand, exponent, htimeout⟩ := htimeout
  obtain ⟨limit, hlimit⟩ : ∃ limit, (Client.ofConfig config).requestTimeout = .ok limit := by
    simp only [Client.requestTimeout, Client.ofConfig, htimeout]
    exact ⟨_, rfl⟩
  have hsteps : ∀ step ∈ steps, CreatesIn ns step := by
    intro step hstep
    obtain ⟨part, hpart, rfl⟩ := Tenant.mem_provisionSteps.mp hstep
    exact createsIn_of_isPart (Tenant.isPart_of_mem hpart) (Tenant.isWritable_of_mem hpart)
  obtain ⟨blocks, htrace, hran⟩ := Pipeline.exists_trace (Tenant.namespace_ne_empty hns) hlimit
    instanceId hsteps s
  rcases hrun : (Pipeline.runPipeline instanceId steps).run (Client.ofConfig config).handle s with
    ⟨outcome, t⟩
  rw [hrun] at htrace hran
  have hsession : after.2 = t := by
    simp only [after, provision_eq hns huser hplan, run_map]
    exact congrArg Prod.snd hrun
  have hok (outcomes : List Pipeline.StepOutcome) (h : outcome = .ok outcomes) :
      after.1 = .ok ⟨deployOperation, Tenant.dashboardUrl ns config.routeSuffix, ns⟩ := by
    simp only [after, provision_eq hns huser hplan, run_map]
    rw [hrun, h]
  have herror (f : Pipeline.PipelineFailure) (h : outcome = .error f) :
      after.1 = .error (.ofPipeline f) := by
    simp only [after, provision_eq hns huser hplan, run_map]
    rw [hrun, h]
  have hsucceeds : (∃ given, after.1 = .ok given) ↔ ∃ outcomes, outcome = .ok outcomes := by
    cases houtcome : outcome with
    | ok outcomes => exact ⟨fun _ ↦ ⟨outcomes, rfl⟩, fun _ ↦ ⟨_, hok outcomes houtcome⟩⟩
    | error f =>
      rw [herror f houtcome]
      simp
  refine ⟨blocks, hsession ▸ hran, htrace.isPrefix, htrace.submits, htrace.passes_of_next,
    hsucceeds.trans htrace.succeeds_iff, ?_, fun b hb hnot ↦ ?_⟩
  · rcases htrace.succeeds_or_breaks with ⟨⟨outcomes, h⟩, -⟩ | ⟨-, hbroken⟩
    · exact .inl (hok outcomes h)
    · exact .inr hbroken
  · obtain ⟨f, h, hbreaks⟩ := htrace.breaks b hb hnot
    exact ⟨f, hbreaks, herror f h⟩

/-- The namespace is refused once, and exists at the second attempt. -/
theorem provision_trace_conflict :
    let s : Kubectl.Session := {
      planned := [.fixed (.finished 1 none (some "connection refused")),
        .fixed (.finished 1 none (some "already exists"))]
      afterwards := .echo 0 none none }
    let after := (provision {} "a" "u" .null .null .null).run (Client.ofConfig {}).handle s
    ∃ blocks : List Block, Ran s (blocks.flatMap Block.ended) after.2 ∧
      (blocks.flatMap Block.ended).length = 2 ∧
      ∃ b ∈ blocks, ¬ b.Passes ∧ ∃ f, b.Breaks "a" f ∧ after.1 = .error (.ofPipeline f) := by
  intro s after
  have htimeout : ∃ negative significand exponent,
      ({} : Config).stepTimeout = .finite negative significand exponent := ⟨_, _, _, rfl⟩
  have hns : namespaceFor ({} : Config).namespacePrefix "a" = .ok "rhpam-a" := rfl
  have hplan : checkRequestedPlan .null .null .null = .ok () := rfl
  obtain ⟨blocks, hran, -, -, -, -, hends, hbreaks⟩ :=
    provision_trace htimeout hns (by decide : "u" ≠ "") hplan s
  have hruns : after.2.runs.length = 2 := rfl
  have hfailed : ∃ f, after.1 = .error f := ⟨_, rfl⟩
  refine ⟨blocks, hran, ?_, ?_⟩
  · rw [hran.runs, List.length_append, List.length_map] at hruns
    simpa [s] using hruns
  · rcases hends with hok | ⟨b, hb, hnot⟩
    · obtain ⟨f, hf⟩ := hfailed
      cases hok.symm.trans hf
    · exact ⟨b, hb, hnot, hbreaks b hb hnot⟩

end TenantBroker.Broker
