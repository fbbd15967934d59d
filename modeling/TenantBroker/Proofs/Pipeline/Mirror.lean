import TenantBroker.Pipeline.Run
import TenantBroker.Proofs.Cluster.Mirror

/-!
# Pipelines that mirror each other

A pipeline comes to the same from two states if its steps do: it runs through in both, or it breaks
off at one step with one failure. Which objects were made or deleted may differ.
-/

namespace TenantBroker.Pipeline

open Cluster (Handler)
open Cluster.Program

variable {σ : Type} {handle : Handler σ} {Between : σ → σ → Prop} {A B C D : σ → σ → Prop}
  {step : Step}

/-- Any two values are related. -/
def Anyhow {α β : Type} (_ : α) (_ : β) : Prop := True

/-- A pipeline without steps comes to the same. -/
theorem agree_runPipeline_nil (hA : Enduring Between A) (instanceId : String) :
    Agree handle Between A A C Anyhow (runPipeline instanceId []) (runPipeline instanceId []) :=
  agree_ok hA trivial

/-- A pipeline comes to the same if its first step does and the others do after it. -/
theorem agree_runPipeline_cons (hB : Enduring Between B) (hC : Enduring Between C)
    (hD : Enduring Between D) (hAC : ∀ s t, A s t → C s t) (instanceId : String) {rest : List Step}
    (hstep : Agree handle Between A B C Anyhow (runAction step) (runAction step))
    (hrest : Agree handle Between B D C Anyhow (runPipeline instanceId rest)
      (runPipeline instanceId rest)) :
    Agree handle Between A D C Anyhow (runPipeline instanceId (step :: rest))
      (runPipeline instanceId (step :: rest)) := by
  unfold runPipeline
  cases step.label with
  | error d => exact fun s t hs ↦ agree_error hC (PipelineFailure.defect d) s t (hAC s t hs)
  | ok label =>
    refine agree_andThen hC (agree_map (S := Anyhow) hB hC hstep ?_ ?_) fun outcome outcome' _ ↦
      agree_map hD hC hrest ?_ ?_
    · exact fun a b _ ↦ ⟨a, b, rfl, rfl, trivial⟩
    · exact fun f ↦ ⟨failureOf step instanceId f, rfl, rfl⟩
    · exact fun a b _ ↦ ⟨outcome :: a, outcome' :: b, rfl, rfl, trivial⟩
    · exact fun f ↦ ⟨f, rfl, rfl⟩

/-- A pipeline comes to the same if each of its steps does. -/
theorem agree_runPipeline (hA : Enduring Between A) (instanceId : String) {steps : List Step}
    (h : ∀ step ∈ steps, Agree handle Between A A A Anyhow (runAction step) (runAction step)) :
    Agree handle Between A A A Anyhow (runPipeline instanceId steps)
      (runPipeline instanceId steps) := by
  induction steps with
  | nil => exact agree_runPipeline_nil hA instanceId
  | cons step rest ih =>
    exact agree_runPipeline_cons hA hA hA (fun _ _ ↦ id) instanceId (h step List.mem_cons_self)
      (ih fun other hother ↦ h other (List.mem_cons_of_mem _ hother))

/-- A create step comes to the same if its call gives out objects with a name in both states, or
fails in both with one failure. -/
theorem agree_create (hA : Enduring Between A) (hB : Enduring Between B) (hC : Enduring Between C)
    {manifest : Json} (ha : step.action = .create) (hm : step.manifest = some manifest)
    (h : ∀ s t, A s t →
      (∃ f, (handle (.create step.kind manifest) s).1 = .error f ∧
        (handle (.create step.kind manifest) t).1 = .error f ∧
        C (handle (.create step.kind manifest) s).2 (handle (.create step.kind manifest) t).2 ∧
        (step.toleratesExisting = true →
          B (handle (.create step.kind manifest) s).2
            (handle (.create step.kind manifest) t).2)) ∨
      ∃ object object' name name', (handle (.create step.kind manifest) s).1 = .ok object ∧
        (handle (.create step.kind manifest) t).1 = .ok object' ∧
        createdName step object = .ok name ∧ createdName step object' = .ok name' ∧
        B (handle (.create step.kind manifest) s).2 (handle (.create step.kind manifest) t).2) :
    Agree handle Between A B C Anyhow (runAction step) (runAction step) := by
  simp only [runAction, ha, runCreate, hm]
  refine agree_call hA fun s t hs ↦ ?_
  rcases h s t hs with ⟨f, hf, hf', hfailed, htolerated⟩ |
    ⟨object, object', name, name', hobject, hobject', hname, hname', hdone⟩
  · rw [hf, hf']
    by_cases ht : (f.isAlreadyExists && step.toleratesExisting) = true
    · simp only [ht, if_true]
      cases step.label with
      | error d => exact agree_error hC _ _ _ hfailed
      | ok label =>
        have htolerates : step.toleratesExisting = true := (Bool.and_eq_true_iff.mp ht).2
        exact agree_ok hB trivial _ _ (htolerated htolerates)
    · simp only [if_neg ht]
      exact agree_error hC _ _ _ hfailed
  · rw [hobject, hobject']
    simp only [hname, hname']
    exact agree_ok hB trivial _ _ hdone

/-- A delete step comes to the same if its call does in both states. -/
theorem agree_delete (hA : Enduring Between A) (ha : step.action = .delete)
    (h : ∀ s t, A s t →
      (handle (.delete step.kind step.name step.ns) s).1 =
        (handle (.delete step.kind step.name step.ns) t).1 ∧
      A (handle (.delete step.kind step.name step.ns) s).2
        (handle (.delete step.kind step.name step.ns) t).2) :
    Agree handle Between A A A Anyhow (runAction step) (runAction step) := by
  simp only [runAction, ha, runDelete]
  split
  · exact agree_error hA _
  · refine agree_call hA fun s t hs ↦ ?_
    obtain ⟨hreply, hafter⟩ := h s t hs
    rw [hreply]
    cases (handle (.delete step.kind step.name step.ns) t).1 with
    | ok u => exact agree_ok hA trivial _ _ hafter
    | error f =>
      by_cases hf : f.isNotFound = true
      · simp only [hf, if_true]
        exact agree_ok hA trivial _ _ hafter
      · simp only [if_neg hf]
        exact agree_error hA _ _ _ hafter

end TenantBroker.Pipeline
