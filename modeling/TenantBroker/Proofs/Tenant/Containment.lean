import TenantBroker.Proofs.Pipeline.Containment
import TenantBroker.Proofs.Tenant.Creation

/-!
# Which failures the steps of a tenant contain

The commands of the steps that make and remove a tenant are made of texts, whatever the namespace,
the user and the settings are. So nothing that kubectl does goes past such a step but the shape of
an object that it printed.
-/

namespace TenantBroker.Tenant

open Cluster (Call Kind)
open Cluster.Program
open Kubectl (Client Outcome Ran Run Session)
open Pipeline (Contained Containment Step escaped? runStep)

variable {ns username : String} {config : Config} {variant : Variant} {part : Kind × Json}

/-- The step that makes a part of a tenant is put in texts if its manifest can be written. -/
theorem IsPart.worded (h : IsPart ns part) (hwritable : part.2.isWritable = true) :
    (createStep part).Worded := by
  obtain ⟨fields, hmetadata, hplace⟩ := h.metadata
  refine ⟨h.label, _, rfl, hwritable, fields, hmetadata, fun hkind _ ↦ ⟨ns, ?_⟩⟩
  rw [hplace hkind]
  rfl

/-- The steps that make a tenant are put in texts. -/
theorem worded_provisionSteps :
    ∀ step ∈ provisionSteps ns username config variant, step.Worded := by
  intro step hstep
  obtain ⟨part, hpart, rfl⟩ := mem_provisionSteps.mp hstep
  exact (isPart_of_mem hpart).worded (isWritable_of_mem hpart)

/-- The steps that remove a tenant are put in texts. -/
theorem worded_deprovisionSteps (ns : String) : ∀ step ∈ deprovisionSteps ns, step.Worded := by
  have hnull {kind : Kind} : Kubectl.Located kind .null := by
    intro _ hpresent
    cases hpresent
  intro step hstep
  refine ⟨Pipeline.label_of_no_manifest step ?_, ?_⟩
  · revert step
    simp [deprovisionSteps, recordKinds, Step.deleteAll, Step.delete]
  · rcases List.mem_append.mp hstep with hswept | hsingle
    · obtain ⟨kind, -, rfl⟩ := List.mem_map.mp hswept
      exact ⟨_, rfl, rfl, fun _ _ ↦ ⟨ns, rfl⟩⟩
    · simp only [List.mem_cons, List.not_mem_nil, or_false] at hsingle
      rcases hsingle with rfl | rfl | rfl
      all_goals exact ⟨_, rfl, ⟨_, rfl⟩, hnull⟩

/-- Under a finite time limit every step that makes or removes a tenant comes to an outcome, or to a
failure with its kind, its label, its action and the instance, unless a defect goes past it. This
happens only if the last run of its first call printed an object of another shape than the action
expects. It does happen if what was created has metadata that are no record, and if the items of a
listing count as present and are no list. Where an item of a list cannot be read there is no
outcome. -/
theorem steps_contain_failures (client : Client)
    (htimeout : ∃ negative significand exponent,
      client.timeout = .finite negative significand exponent)
    {step : Step}
    (hstep : step ∈ provisionSteps ns username config variant ∨ step ∈ deprovisionSteps ns)
    (instanceId : String) (s : Session) :
    ∃ (c : Call) (r : Run) (earlier : List Outcome) (last : Outcome),
      step.firstCall? = some c ∧
      Ran s ((earlier ++ [last]).map (r, ·)) (client.handle c s).2 ∧
      Containment instanceId step last ((runStep instanceId step).run client.handle s).1 := by
  obtain ⟨limit, hlimit⟩ := Kubectl.exists_requestTimeout htimeout
  have hworded : step.Worded :=
    hstep.elim (worded_provisionSteps step) (worded_deprovisionSteps ns step)
  exact hworded.containment hlimit instanceId s

/-- Where every run fails, what comes of making the namespace is contained. -/
theorem steps_contain_failures_failed :
    let step := createStep (namespacePart "rhpam-a")
    let s : Session := .constant (.finished 1 none (some "boom"))
    step ∈ provisionSteps "rhpam-a" "u" {} .standard ∧
      Contained "a" step ((runStep "a" step).run ({} : Client).handle s).1 := by
  intro step s
  have hstep : step ∈ provisionSteps "rhpam-a" "u" {} .standard :=
    mem_provisionSteps.mpr ⟨_, namespacePart_mem "rhpam-a" "u" {} .standard, rfl⟩
  obtain ⟨c, r, earlier, last, -, hran, h⟩ :=
    steps_contain_failures {} ⟨_, _, _, rfl⟩ (.inl hstep) "a" s
  refine ⟨hstep, h.contained fun fields hprints ↦ ?_⟩
  have hlast : last = s.outcome r earlier.length := hran.outcomes _ _ _ (by simp)
  obtain ⟨stdout, stderr, ho, -⟩ := hprints
  cases hlast.symm.trans ho

/-- Metadata that are null, in an object that was created, are a defect that goes past the step that
makes the namespace. Items that are a number, and a number among the items, go past the first step
of a removal. -/
theorem misshapen_objects_not_contained :
    let create := createStep (namespacePart "rhpam-a")
    let delete := Step.deleteAll Kind.users (.str "rhpam-a")
    let prints (stdout : String) : Session := .constant (.finished 0 (some stdout) none)
    create ∈ provisionSteps "rhpam-a" "u" {} .standard ∧ delete ∈ deprovisionSteps "rhpam-a" ∧
      escaped? ((runStep "a" create).run ({} : Client).handle
        (prints "\x7b\"metadata\": null\x7d")).1 = some .notRecord ∧
      escaped? ((runStep "a" delete).run ({} : Client).handle
        (prints "\x7b\"items\": 5\x7d")).1 = some .wrongType ∧
      escaped? ((runStep "a" delete).run ({} : Client).handle
        (prints "\x7b\"items\": [5]\x7d")).1 = some .notRecord := by
  intro create delete prints
  exact ⟨mem_provisionSteps.mpr ⟨_, namespacePart_mem "rhpam-a" "u" {} .standard, rfl⟩,
    List.mem_cons_self,
    by decide +kernel, by decide +kernel, by decide +kernel⟩

end TenantBroker.Tenant
