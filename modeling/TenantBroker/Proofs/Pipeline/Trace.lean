import TenantBroker.Proofs.Kubectl.Runs
import TenantBroker.Proofs.Pipeline.Conduct

/-!
# Pipelines of creates behind kubectl

The runs of a pipeline that only creates come in blocks, one for each step in their order. All runs
of a block submit the manifest of its step. The next block begins only if the last run of a block
has created the object, or if the object may exist already and does. Otherwise the pipeline ends
with what this run came to.
-/

namespace TenantBroker.Pipeline

open Cluster (Failure Kind)
open Kubectl (Client HasRecord IsRepeated Outcome Prints Ran Replies Run Session createWords
  failedCommand?)

/-- The runs of one step. The last one decides. -/
structure Block where
  step : Step
  run : Run
  earlier : List Outcome
  last : Outcome

namespace Block

/-- The runs of a block with their outcomes. -/
def ended (b : Block) : List (Run × Outcome) := (b.earlier ++ [b.last]).map (b.run, ·)

/-- All runs of a block submit the manifest of its step, in the namespace if its kind has one. There
are as many as there may be attempts at most, where the first run is made even if there may be none.
All but the last failed in a way that is to be repeated. -/
structure Submits (client : Client) (ns : String) (b : Block) : Prop where
  command : ∃ limit, client.requestTimeout = .ok limit ∧
    b.run.command = (createWords client.program limit b.step.kind ns).map .str
  manifest : b.run.manifest = b.step.manifest
  attempts : (b.earlier ++ [b.last]).length ≤ max 1 client.attempts
  again : ∀ manifest, b.step.manifest = some manifest →
    ∀ o ∈ b.earlier, IsRepeated (.create b.step.kind manifest) b.run o

/-- The last run of a block has printed an object whose metadata are a record, if it has any, or it
found that the role binding which it was to create exists already. -/
def Passes (b : Block) : Prop :=
  (∃ fields, Prints b.last fields ∧ HasRecord fields) ∨
    b.step.kind = Kind.roleBindings ∧
      ∃ f, failedCommand? b.run b.last = some f ∧ f.category = .alreadyExists

/-- How a pipeline ends with a block. If the last run has printed no object, then the failure names
the step and the instance, and it is a conflict exactly if the object exists already. If it has
printed one there is no such failure. -/
inductive Breaks (instanceId : String) (b : Block) : PipelineFailure → Prop
  | reported (failure : StepFailure) (hprints : ∀ fields, ¬ Prints b.last fields)
      (hkind : failure.kind = b.step.kind.name) (hname : b.step.label = .ok failure.name)
      (haction : failure.action = .create) (hinstance : failure.instanceId = instanceId)
      (hcause : ∀ f, failedCommand? b.run b.last = some f →
        ∃ summary, failure.cause = .command { f with summary })
      (hconflict : failure.isConflict = true ↔
        ∃ f, failedCommand? b.run b.last = some f ∧ f.category = .alreadyExists) :
      Breaks instanceId b (.step failure)
  | shapeless (fields : List (String × Json)) (hprints : Prints b.last fields) :
      Breaks instanceId b (.defect .notRecord)

variable (b : Block)

/-- If the last run has printed an object then its metadata decide. -/
theorem passes_iff_of_prints {fields : List (String × Json)} (h : Prints b.last fields) :
    b.Passes ↔ HasRecord fields := by
  constructor
  · rintro (⟨fields', h', hrecord⟩ | ⟨-, f, hf, -⟩)
    · exact h.unique h' ▸ hrecord
    · rw [h.not_failed] at hf
      cases hf
  · exact fun hrecord ↦ .inl ⟨fields, h, hrecord⟩

/-- If the last run has failed then the kind of the object and the failure decide. -/
theorem passes_iff_of_failed {f : Cluster.CommandFailure}
    (hf : failedCommand? b.run b.last = some f) :
    b.Passes ↔ b.step.kind = Kind.roleBindings ∧ f.category = .alreadyExists := by
  constructor
  · rintro (⟨fields, h, -⟩ | ⟨hkind, f', hf', hcategory⟩)
    · rw [h.not_failed] at hf
      cases hf
    · obtain rfl : f = f' := Option.some.inj (hf.symm.trans hf')
      exact ⟨hkind, hcategory⟩
  · exact fun h ↦ .inr ⟨h.1, f, hf, h.2⟩

/-- If the last run has neither printed an object nor failed then the block has not passed. -/
theorem not_passes_of_unusable (hprints : ∀ fields, ¬ Prints b.last fields)
    (hnone : failedCommand? b.run b.last = none) : ¬ b.Passes := by
  rintro (⟨fields, h, -⟩ | ⟨-, f, hf, -⟩)
  · exact hprints fields h
  · rw [hnone] at hf
    cases hf

end Block

/-- The blocks that steps come to, and the outcome of their pipeline. -/
inductive Trace (client : Client) (ns instanceId : String) :
    List Step → List Block → Except PipelineFailure (List StepOutcome) → Prop
  | done : Trace client ns instanceId [] [] (.ok [])
  | passed (b : Block) {steps : List Step} {blocks : List Block} (first : StepOutcome)
      {outcome : Except PipelineFailure (List StepOutcome)} (hsubmits : b.Submits client ns)
      (hpasses : b.Passes) (h : Trace client ns instanceId steps blocks outcome) :
      Trace client ns instanceId (b.step :: steps) (b :: blocks) (outcome.map (first :: ·))
  | broken (b : Block) (steps : List Step) {f : PipelineFailure} (hsubmits : b.Submits client ns)
      (hpasses : ¬ b.Passes) (hbreaks : b.Breaks instanceId f) :
      Trace client ns instanceId (b.step :: steps) [b] (.error f)

namespace Trace

variable {client : Client} {ns instanceId : String} {steps : List Step} {blocks : List Block}
  {outcome : Except PipelineFailure (List StepOutcome)}
  (h : Trace client ns instanceId steps blocks outcome)
include h

/-- The blocks are those of the first steps. -/
theorem isPrefix : blocks.map Block.step <+: steps := by
  induction h with
  | done => exact List.prefix_rfl
  | passed b first hsubmits hpasses _ ih => exact List.cons_prefix_cons.mpr ⟨rfl, ih⟩
  | broken b steps => exact List.cons_prefix_cons.mpr ⟨rfl, List.nil_prefix⟩

/-- Every block submits what its step is to create. -/
theorem submits : ∀ b ∈ blocks, b.Submits client ns := by
  induction h with
  | done => exact List.forall_mem_nil _
  | passed b first hsubmits hpasses _ ih => exact List.forall_mem_cons.mpr ⟨hsubmits, ih⟩
  | broken b steps hsubmits => exact List.forall_mem_cons.mpr ⟨hsubmits, List.forall_mem_nil _⟩

/-- A block that another one follows has passed. -/
theorem passes_of_next : ∀ b ∈ blocks.dropLast, b.Passes := by
  induction h with
  | done => exact List.forall_mem_nil _
  | @passed b steps blocks first outcome hsubmits hpasses _ ih =>
    cases blocks with
    | nil => exact List.forall_mem_nil _
    | cons next rest => exact List.forall_mem_cons.mpr ⟨hpasses, ih⟩
  | broken b steps => exact List.forall_mem_nil _

/-- The pipeline succeeds, or there is a block that has not passed. -/
theorem succeeds_or_breaks :
    (∃ outcomes, outcome = .ok outcomes) ∧ blocks.map Block.step = steps ∧
        (∀ b ∈ blocks, b.Passes) ∨
      (∃ f, outcome = .error f) ∧ ∃ b ∈ blocks, ¬ b.Passes := by
  induction h with
  | done => exact .inl ⟨⟨[], rfl⟩, rfl, List.forall_mem_nil _⟩
  | passed b first hsubmits hpasses _ ih =>
    rcases ih with ⟨⟨outcomes, rfl⟩, hsteps, hall⟩ | ⟨⟨f, rfl⟩, other, hother, hnot⟩
    · refine .inl ⟨⟨first :: outcomes, rfl⟩, ?_, List.forall_mem_cons.mpr ⟨hpasses, hall⟩⟩
      rw [List.map_cons, hsteps]
    · exact .inr ⟨⟨f, rfl⟩, other, List.mem_cons_of_mem _ hother, hnot⟩
  | broken b steps hsubmits hpasses => exact .inr ⟨⟨_, rfl⟩, b, List.mem_cons_self, hpasses⟩

/-- The pipeline succeeds exactly if every step has a block that has passed. -/
theorem succeeds_iff :
    (∃ outcomes, outcome = .ok outcomes) ↔
      blocks.map Block.step = steps ∧ ∀ b ∈ blocks, b.Passes := by
  rcases h.succeeds_or_breaks with ⟨hok, hall⟩ | ⟨⟨f, rfl⟩, b, hb, hnot⟩
  · exact ⟨fun _ ↦ hall, fun _ ↦ hok⟩
  · constructor
    · rintro ⟨outcomes, hok⟩
      cases hok
    · exact fun hall ↦ absurd (hall.2 b hb) hnot

/-- If a block has not passed the pipeline has ended with it. -/
theorem breaks : ∀ b ∈ blocks, ¬ b.Passes → ∃ f, outcome = .error f ∧ b.Breaks instanceId f := by
  induction h with
  | done => exact List.forall_mem_nil _
  | passed b first hsubmits hpasses _ ih =>
    refine List.forall_mem_cons.mpr ⟨fun hnot ↦ absurd hpasses hnot, fun other hother hnot ↦ ?_⟩
    obtain ⟨f, rfl, hbreaks⟩ := ih other hother hnot
    exact ⟨f, rfl, hbreaks⟩
  | @broken b steps f hsubmits hpasses hbreaks =>
    exact List.forall_mem_cons.mpr ⟨fun _ ↦ ⟨f, rfl, hbreaks⟩, List.forall_mem_nil _⟩

end Trace

/-! ## The trace of a pipeline -/

/-- A step that creates an object in a namespace, or outside all if its kind is cluster-wide, and
that tolerates existing role bindings. -/
structure CreatesIn (ns : String) (step : Step) : Prop where
  action : step.action = .create
  label : ∃ label, step.label = .ok label
  submission : ∃ manifest given display, step.manifest = some manifest ∧
    Client.submission manifest = .ok (given, display) ∧
    (step.kind.namespaced = true → given = .str ns)
  tolerates : step.toleratesExisting = true ↔ step.kind = Kind.roleBindings

private theorem createdName_ok {step : Step} {label : Json} (hlabel : step.label = .ok label)
    {fields : List (String × Json)} (h : HasRecord fields) :
    ∃ name, createdName step (.obj fields) = .ok name := by
  have hmetadata : ∃ inner, (Json.obj fields).metadata = .ok (.obj inner) := by
    simp only [Json.metadata, Json.get, Json.getD, Json.fields, Except.map]
    cases hfield : Json.field? fields "metadata" with
    | none => exact ⟨[], rfl⟩
    | some metadata =>
      obtain ⟨inner, rfl⟩ := h metadata hfield
      cases inner with
      | nil => exact ⟨[], rfl⟩
      | cons f rest => exact ⟨f :: rest, rfl⟩
  obtain ⟨inner, hinner⟩ := hmetadata
  simp only [createdName, hinner, hlabel, Json.get, Json.getD, Json.fields, Except.map, bind,
    Except.bind]
  split
  · exact ⟨_, rfl⟩
  · exact ⟨_, rfl⟩

private theorem isConflict_command (failure : StepFailure) {f : Cluster.CommandFailure}
    (h : failure.cause = .command f) :
    failure.isConflict = true ↔ f.category = .alreadyExists := by
  simp [StepFailure.isConflict, h, Cluster.Cause.category?]

private theorem isConflict_value (failure : StepFailure) {fault : Cluster.ValueFault}
    (h : failure.cause = .value fault) : failure.isConflict = false := by
  simp [StepFailure.isConflict, h, Cluster.Cause.category?]

/-- After the create of its first step a pipeline goes on with the others if the block of the step
has passed, and otherwise it ends with this block. -/
theorem runPipeline_block {ns : String} {step : Step} (hstep : CreatesIn ns step) {manifest : Json}
    (hm : step.manifest = some manifest) (instanceId : String) (rest : List Step) :
    ∃ next, runPipeline instanceId (step :: rest) = .call (.create step.kind manifest) next ∧
      ∀ (b : Block) (what : String) (reply : Except Failure Json), b.step = step →
        Replies what b.run b.last reply →
        (∃ first, b.Passes ∧ next reply = (runPipeline instanceId rest).map fun outcomes ↦
            outcomes.map (first :: ·)) ∨
          ∃ f, ¬ b.Passes ∧ b.Breaks instanceId f ∧ next reply = .done (.error f) := by
  obtain ⟨label, hlabel⟩ := hstep.label
  obtain ⟨next, hnext, hcreated, htolerated, hfailed⟩ :=
    runPipeline_create instanceId hlabel hstep.action hm rest
  have hreport (cause : Cluster.Cause) : failureOf step instanceId (.cause cause) =
      .step ⟨step.kind.name, label, instanceId, .create, cause⟩ := by
    simp only [failureOf, hlabel, hstep.action]
  refine ⟨next, hnext, ?_⟩
  rintro b what reply rfl hreplies
  cases hreplies with
  | object fields hprints hrecord =>
    obtain ⟨name, hname⟩ := createdName_ok hlabel hrecord
    exact .inl ⟨_, (b.passes_iff_of_prints hprints).mpr hrecord, hcreated _ name hname⟩
  | shapeless fields hprints hrecord =>
    have hnot : ¬ b.Passes := fun h ↦ hrecord ((b.passes_iff_of_prints hprints).mp h)
    exact .inr ⟨_, hnot, .shapeless fields hprints, hfailed _ rfl⟩
  | failed f hf =>
    by_cases hpasses : b.step.kind = Kind.roleBindings ∧ f.category = .alreadyExists
    · refine .inl ⟨_, (b.passes_iff_of_failed hf).mpr hpasses, htolerated _ ?_⟩
      rw [Bool.and_eq_true]
      exact ⟨decide_eq_true (congrArg some hpasses.2), hstep.tolerates.mpr hpasses.1⟩
    · have hnot : ¬ b.Passes := fun h ↦ hpasses ((b.passes_iff_of_failed hf).mp h)
      refine .inr ⟨_, hnot, ?_, (hfailed _ ?_).trans (by rw [hreport])⟩
      · refine .reported _ (fun fields h ↦ ?_) rfl hlabel rfl rfl ?_ ?_
        · exact Option.some_ne_none f (hf.symm.trans (h.not_failed _))
        · simp only [hf, Option.some.injEq, forall_eq']
          exact ⟨_, rfl⟩
        · simp only [hf, Option.some.injEq, exists_eq_left']
          rw [isConflict_command _ rfl]
      · rw [← Bool.not_eq_true, Bool.and_eq_true]
        rintro ⟨hcategory, htolerates⟩
        refine hpasses ⟨hstep.tolerates.mp htolerates, ?_⟩
        exact Option.some.inj (of_decide_eq_true hcategory)
  | unusable fault hprints hnone =>
    have hnot := b.not_passes_of_unusable hprints hnone
    refine .inr ⟨_, hnot, ?_, (hfailed _ rfl).trans (by rw [hreport])⟩
    refine .reported _ hprints rfl hlabel rfl rfl ?_ ?_
    · rw [hnone]
      intro f hf
      cases hf
    · rw [isConflict_value _ rfl, hnone]
      simp

/-- The create of a step runs one block, and replies to its last outcome. -/
theorem exists_block {client : Client} {ns limit : String} (hns : ns ≠ "")
    (hlimit : client.requestTimeout = .ok limit) {step : Step} (hstep : CreatesIn ns step)
    (s : Session) :
    ∃ manifest, step.manifest = some manifest ∧ ∃ (b : Block) (what : String), b.step = step ∧
      b.Submits client ns ∧ Ran s b.ended (client.handle (.create step.kind manifest) s).2 ∧
      Replies what b.run b.last (client.handle (.create step.kind manifest) s).1 := by
  obtain ⟨manifest, given, display, hm, hsubmission, hgiven⟩ := hstep.submission
  obtain ⟨earlier, last, hran, hbound, hagain, hreply⟩ :=
    Kubectl.create_runs hlimit hsubmission hgiven hns s
  refine ⟨manifest, hm, ⟨step, _, earlier, last⟩, step.kind.name ++ " " ++ display, rfl,
    ⟨⟨limit, hlimit, rfl⟩, hm.symm, ?_, fun other hother ↦ ?_⟩, hran, ?_⟩
  · show (earlier ++ [last]).length ≤ max 1 client.attempts
    rw [List.length_append, List.length_singleton]
    omega
  · obtain rfl : manifest = other := Option.some.inj (hm.symm.trans hother)
    exact hagain
  · rw [hreply]
    exact Kubectl.replies_createReply rfl _ last

/-- A pipeline of creates runs blocks for its steps, one after the other. The induction is on the
steps. -/
theorem exists_trace {client : Client} {ns limit : String} (hns : ns ≠ "")
    (hlimit : client.requestTimeout = .ok limit) (instanceId : String) {steps : List Step}
    (hsteps : ∀ step ∈ steps, CreatesIn ns step) (s : Session) :
    ∃ blocks, Trace client ns instanceId steps blocks
        ((runPipeline instanceId steps).run client.handle s).1 ∧
      Ran s (blocks.flatMap Block.ended)
        ((runPipeline instanceId steps).run client.handle s).2 := by
  induction steps generalizing s with
  | nil => exact ⟨[], .done, .refl s⟩
  | cons step rest ih =>
    have hstep := hsteps step List.mem_cons_self
    obtain ⟨manifest, hm, b, what, rfl, hsubmits, hran, hreplies⟩ := exists_block hns hlimit hstep s
    obtain ⟨next, hnext, hthen⟩ := runPipeline_block hstep hm instanceId rest
    rw [hnext, Cluster.Program.run_call]
    rcases hthen b what _ rfl hreplies with ⟨first, hpasses, hgo⟩ | ⟨f, hpasses, hbreaks, hstop⟩
    · obtain ⟨blocks, htrace, hran'⟩ :=
        ih (fun other hother ↦ hsteps other (List.mem_cons_of_mem _ hother))
          (client.handle (.create b.step.kind manifest) s).2
      rw [hgo, Cluster.Program.run_map]
      exact ⟨b :: blocks, .passed b first hsubmits hpasses htrace, hran.trans hran'⟩
    · rw [hstop, Cluster.Program.run_done]
      refine ⟨[b], .broken b rest hsubmits hpasses hbreaks, ?_⟩
      rw [List.flatMap_singleton]
      exact hran

end TenantBroker.Pipeline
