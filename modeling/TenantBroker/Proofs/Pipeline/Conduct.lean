import TenantBroker.Pipeline.Run
import TenantBroker.Proofs.Cluster.Conduct

/-!
# The conduct of pipelines

Which calls a step can make, and what a pipeline leads to step by step while others work on the
cluster too.
-/

namespace TenantBroker.Pipeline

open Cluster (Call Failure Handler Kind Program)
open Cluster.Program

/-! ## The calls of a step -/

/-- Whatever the cluster replies, the step makes calls of one sort only. -/
def Step.Makes (P : Call → Prop) (step : Step) : Prop :=
  match step.action with
  | .create => ∀ manifest, step.manifest = some manifest → P (.create step.kind manifest)
  | .delete => P (.delete step.kind step.name step.ns)
  | .deleteAll => P (.list step.kind step.ns) ∧ ∀ name, P (.delete step.kind name step.ns)

/-- While the replies are of some sort, the step makes calls of one sort only. What it deletes of a
listing is named by the items. -/
def Step.MakesUnder (R : (c : Call) → Except Failure c.Reply → Prop) (P : Call → Prop)
    (step : Step) : Prop :=
  match step.action with
  | .create => ∀ manifest, step.manifest = some manifest → P (.create step.kind manifest)
  | .delete => P (.delete step.kind step.name step.ns)
  | .deleteAll => P (.list step.kind step.ns) ∧
      ∀ items, R (.list step.kind step.ns) (.ok items) → ∀ item ∈ items, ∀ name,
        listedName item = .ok name → P (.delete step.kind name step.ns)

variable {P : Call → Prop} {R : (c : Call) → Except Failure c.Reply → Prop} {step : Step}

/-- What a step makes whatever the replies it makes while they are of some sort. -/
theorem Step.Makes.under (h : step.Makes P) : step.MakesUnder R P := by
  unfold Step.Makes at h
  unfold Step.MakesUnder
  cases ha : step.action with
  | create => rw [ha] at h; exact h
  | delete => rw [ha] at h; exact h
  | deleteAll => rw [ha] at h; exact ⟨h.1, fun _ _ _ _ name _ ↦ h.2 name⟩

private theorem onlyUnder_runCreate
    (h : ∀ manifest, step.manifest = some manifest → P (.create step.kind manifest)) :
    (runCreate step).OnlyUnder R P := by
  unfold runCreate
  cases hm : step.manifest with
  | none => trivial
  | some manifest =>
    refine ⟨h manifest hm, fun reply _ ↦ ?_⟩
    cases reply with
    | ok created => cases hn : createdName step created <;> simp [hn]
    | error f =>
      by_cases ht : (f.isAlreadyExists && step.toleratesExisting) = true
      · cases step.label <;> simp [ht]
      · simp [ht]

private theorem onlyUnder_runDelete (h : P (.delete step.kind step.name step.ns)) :
    (runDelete step).OnlyUnder R P := by
  unfold runDelete
  split
  · trivial
  · refine ⟨h, fun reply _ ↦ ?_⟩
    cases reply with
    | ok u => trivial
    | error f => by_cases hf : f.isNotFound = true <;> simp [hf]

/-- Deleting listed objects deletes what they name, in one kind and namespace. -/
theorem onlyUnder_deleteItems {kind : Kind} {ns : Json} {items : List Json}
    (h : ∀ item ∈ items, ∀ name, listedName item = .ok name → P (.delete kind name ns)) :
    (deleteItems kind ns items).OnlyUnder R P := by
  induction items with
  | nil => trivial
  | cons item rest ih =>
    obtain ⟨hitem, hrest⟩ := List.forall_mem_cons.mp h
    unfold deleteItems
    cases hn : listedName item with
    | error d => trivial
    | ok name =>
      by_cases ht : name.isTruthy = true
      · simp only [ht, if_true]
        refine ⟨hitem name hn, fun reply _ ↦ ?_⟩
        cases reply with
        | ok u => exact onlyUnder_map (ih hrest)
        | error f => by_cases hf : f.isNotFound = true <;> simp [hf, ih hrest]
      · simpa [ht] using ih hrest

private theorem onlyUnder_runDeleteAll (hl : P (.list step.kind step.ns))
    (hd : ∀ items, R (.list step.kind step.ns) (.ok items) → ∀ item ∈ items, ∀ name,
      listedName item = .ok name → P (.delete step.kind name step.ns)) :
    (runDeleteAll step).OnlyUnder R P := by
  refine ⟨hl, fun reply hreply ↦ ?_⟩
  cases reply with
  | ok items => exact onlyUnder_map (onlyUnder_deleteItems (hd items hreply))
  | error f => by_cases hf : f.isNotFound = true <;> simp [hf]

/-- A step makes the calls of its action. -/
theorem onlyUnder_runAction (h : step.MakesUnder R P) : (runAction step).OnlyUnder R P := by
  unfold Step.MakesUnder at h
  unfold runAction
  cases ha : step.action with
  | create => rw [ha] at h; exact onlyUnder_runCreate h
  | delete => rw [ha] at h; exact onlyUnder_runDelete h
  | deleteAll => rw [ha] at h; exact onlyUnder_runDeleteAll h.1 h.2

/-- A pipeline makes the calls of its steps. -/
theorem onlyUnder_runPipeline (instanceId : String) {steps : List Step}
    (h : ∀ step ∈ steps, step.MakesUnder R P) : (runPipeline instanceId steps).OnlyUnder R P := by
  induction steps with
  | nil => trivial
  | cons step rest ih =>
    unfold runPipeline
    cases hl : step.label with
    | error d => trivial
    | ok label =>
      refine onlyUnder_andThen (onlyUnder_map (onlyUnder_runAction (h step List.mem_cons_self)))
        fun outcome ↦ ?_
      exact onlyUnder_map (ih fun other hother ↦ h other (List.mem_cons_of_mem _ hother))

/-- A step makes the calls of its action, whatever the replies. -/
theorem only_runAction (h : step.Makes P) : (runAction step).Only P :=
  onlyUnder_true.mp (onlyUnder_runAction h.under)

/-- A pipeline makes the calls of its steps, whatever the replies. -/
theorem only_runPipeline (instanceId : String) {steps : List Step}
    (h : ∀ step ∈ steps, step.Makes P) : (runPipeline instanceId steps).Only P :=
  onlyUnder_true.mp (onlyUnder_runPipeline instanceId fun step hstep ↦ (h step hstep).under)

/-- A pipeline that begins with a create step makes the call of this step first. It goes on with the
other steps where the call gives out an object with a name, or fails in a way that the step
tolerates. Otherwise it ends where the call fails. -/
theorem runPipeline_create (instanceId : String) {manifest label : Json}
    (hlabel : step.label = .ok label) (ha : step.action = .create)
    (hm : step.manifest = some manifest) (rest : List Step) :
    ∃ next, runPipeline instanceId (step :: rest) = .call (.create step.kind manifest) next ∧
      (∀ created name, createdName step created = .ok name →
        next (.ok created) = (runPipeline instanceId rest).map fun outcomes ↦
          outcomes.map (⟨step, true, [name]⟩ :: ·)) ∧
      (∀ f : Failure, (f.isAlreadyExists && step.toleratesExisting) = true →
        next (.error f) = (runPipeline instanceId rest).map fun outcomes ↦
          outcomes.map (⟨step, false, [label]⟩ :: ·)) ∧
      ∀ f : Failure, (f.isAlreadyExists && step.toleratesExisting) = false →
        next (.error f) = .done (.error (failureOf step instanceId f)) := by
  simp only [runPipeline, hlabel, runStep, runAction, ha, runCreate, hm, Program.map,
    Program.andThen, Program.bind]
  refine ⟨_, rfl, fun created name hname ↦ ?_, fun f hf ↦ ?_, fun f hf ↦ ?_⟩
  · simp only [hname]
    rfl
  · simp only [hf]
    rfl
  · simp only [hf]
    rfl

/-! ## What a pipeline leads to -/

variable {σ : Type} {handle : Handler σ} {Between : σ → σ → Prop} {I A B C : σ → Prop}

/-- A pipeline without steps leads to what holds already. -/
theorem leads_runPipeline_nil (hI : Stable Between I) (hA : Stable Between A)
    (instanceId : String) :
    Leads handle Between I A A (runPipeline instanceId []) :=
  fun _ hIs hAs ↦ safe_done hI hA hIs fun _ _ ↦ hAs

/-- A pipeline leads on along its steps. -/
theorem leads_runPipeline_cons (hI : Stable Between I) (instanceId : String) {rest : List Step}
    (hstep : Leads handle Between I A B (runAction step))
    (hrest : Leads handle Between I B C (runPipeline instanceId rest)) :
    Leads handle Between I A C (runPipeline instanceId (step :: rest)) := by
  unfold runPipeline
  cases hl : step.label with
  | error d =>
    intro s hIs _ t ht
    exact ⟨hI.many ht hIs, fun value hv ↦ nomatch hv⟩
  | ok label =>
    refine leads_andThen hI (leads_map hstep fun outcome value h ↦ ?_) fun outcome ↦
      leads_map hrest fun outcomes value h ↦ ?_
    · cases outcome with
      | ok first => exact ⟨first, rfl⟩
      | error f => cases h
    · cases outcomes with
      | ok first => exact ⟨first, rfl⟩
      | error f => cases h

/-- Steps that all keep an assertion can be put before a pipeline that starts from it. -/
theorem leads_runPipeline_append (hI : Stable Between I) (instanceId : String)
    {steps rest : List Step} (hsteps : ∀ step ∈ steps, Leads handle Between I A A (runAction step))
    (hrest : Leads handle Between I A B (runPipeline instanceId rest)) :
    Leads handle Between I A B (runPipeline instanceId (steps ++ rest)) := by
  induction steps with
  | nil => exact hrest
  | cons step others ih =>
    refine leads_runPipeline_cons hI instanceId (hsteps step List.mem_cons_self) (ih ?_)
    intro other hother
    exact hsteps other (List.mem_cons_of_mem _ hother)

/-- A create step leads on if its call does where it succeeds, or always if it may fail. -/
theorem leads_create (hI : Stable Between I) (hA : Stable Between A) (hB : Stable Between B)
    (manifest : Json) (ha : step.action = .create) (hm : step.manifest = some manifest)
    (hkeep : ∀ s, I s → A s → I (handle (.create step.kind manifest) s).2)
    (hmade : ∀ s, I s → A s → step.toleratesExisting = true ∨
      (∃ created, (handle (.create step.kind manifest) s).1 = .ok created) →
        B (handle (.create step.kind manifest) s).2) :
    Leads handle Between I A B (runAction step) := by
  simp only [runAction, ha, runCreate, hm]
  apply leads_call hI hA
  intro s hIs hAs
  have hIt := hkeep s hIs hAs
  have hBt := hmade s hIs hAs
  cases hr : (handle (.create step.kind manifest) s).1 with
  | ok created =>
    cases hn : createdName step created with
    | ok name =>
      simp only [hn]
      exact safe_done hI hB hIt fun _ _ ↦ hBt (.inr ⟨created, hr⟩)
    | error d =>
      simp only [hn]
      exact safe_done hI hB hIt fun _ hv ↦ nomatch hv
  | error f =>
    by_cases ht : (f.isAlreadyExists && step.toleratesExisting) = true
    · simp only [ht, if_true]
      have htolerates : step.toleratesExisting = true := by simp_all
      cases step.label with
      | ok label => exact safe_done hI hB hIt fun _ _ ↦ hBt (.inl htolerates)
      | error d => exact safe_done hI hB hIt fun _ hv ↦ nomatch hv
    · simp only [if_neg ht]
      exact safe_done hI hB hIt fun _ hv ↦ nomatch hv

/-- A delete step leads on if its call does where it succeeds and where it finds nothing. -/
theorem leads_delete (hI : Stable Between I) (hA : Stable Between A) (hB : Stable Between B)
    (ha : step.action = .delete)
    (hkeep : ∀ s, I s → A s → I (handle (.delete step.kind step.name step.ns) s).2)
    (hgone : ∀ s, I s → A s →
      (∀ f, (handle (.delete step.kind step.name step.ns) s).1 = .error f → f.isNotFound = true) →
        B (handle (.delete step.kind step.name step.ns) s).2) :
    Leads handle Between I A B (runAction step) := by
  simp only [runAction, ha, runDelete]
  split
  · intro s hIs _
    exact safe_done hI hB hIs fun _ hv ↦ nomatch hv
  · apply leads_call hI hA
    intro s hIs hAs
    have hIt := hkeep s hIs hAs
    have hBt := hgone s hIs hAs
    cases hr : (handle (.delete step.kind step.name step.ns) s).1 with
    | ok u => exact safe_done hI hB hIt fun _ _ ↦ hBt fun f hf ↦ by rw [hr] at hf; cases hf
    | error f =>
      by_cases hf : f.isNotFound = true
      · simp only [hf, if_true]
        refine safe_done hI hB hIt fun _ _ ↦ hBt fun g hg ↦ ?_
        rw [hr, Except.error.injEq] at hg
        exact hg ▸ hf
      · simp only [if_neg hf]
        exact safe_done hI hB hIt fun _ hv ↦ nomatch hv

/-- A step whose calls all keep an assertion leads from it to itself. -/
theorem leads_of_makes (hI : Stable Between I) (hA : Stable Between A) (hstep : step.Makes P)
    (hkeep : ∀ c, P c → ∀ s, I s → A s → I (handle c s).2 ∧ A (handle c s).2) :
    Leads handle Between I A A (runAction step) :=
  fun _ hIs hAs ↦
    (safe_of_only hI hA hkeep (only_runAction hstep) hIs hAs).mono fun _ _ _ h _ _ ↦ h

/-! ## What a pipeline achieves -/

/-- A pipeline without steps achieves what holds already. -/
theorem achieves_runPipeline_nil (hI : Stable Between I) (hA : Stable Between A)
    (instanceId : String) : Achieves handle Between I A A (runPipeline instanceId []) :=
  achieves_done hI hA []

/-- A pipeline achieves what its steps do one after the other. -/
theorem achieves_runPipeline_cons (instanceId : String) {rest : List Step}
    (hlabel : ∃ label, step.label = .ok label)
    (hstep : Achieves handle Between I A B (runAction step))
    (hrest : Achieves handle Between I B C (runPipeline instanceId rest)) :
    Achieves handle Between I A C (runPipeline instanceId (step :: rest)) := by
  obtain ⟨label, hlabel⟩ := hlabel
  unfold runPipeline
  rw [hlabel]
  exact achieves_andThen (achieves_map hstep fun value ↦ ⟨value, rfl⟩) fun outcome ↦
    achieves_map hrest fun outcomes ↦ ⟨outcome :: outcomes, rfl⟩

/-- A create step achieves what its call does where this gives out an object with a name. -/
theorem achieves_create (hI : Stable Between I) (hA : Stable Between A) (hB : Stable Between B)
    (manifest : Json) (ha : step.action = .create) (hm : step.manifest = some manifest)
    (hmade : ∀ s, I s → A s → ∃ created name,
      (handle (.create step.kind manifest) s).1 = .ok created ∧
      createdName step created = .ok name ∧ I (handle (.create step.kind manifest) s).2 ∧
      B (handle (.create step.kind manifest) s).2) :
    Achieves handle Between I A B (runAction step) := by
  simp only [runAction, ha, runCreate, hm]
  apply achieves_call hI hA
  intro s hIs hAs
  obtain ⟨created, name, hreply, hname, hIt, hBt⟩ := hmade s hIs hAs
  rw [hreply]
  simp only [hname]
  exact achieves_done hI hB _ _ hIt hBt

end TenantBroker.Pipeline
