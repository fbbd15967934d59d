import TenantBroker.Proofs.Cluster.Calls
import TenantBroker.Proofs.Cluster.Reach
import TenantBroker.Proofs.Pipeline.Conduct
import TenantBroker.Proofs.Pipeline.Success

/-!
# What the outcomes of a pipeline say

A pipeline that runs through has one outcome for each of its steps. The outcome says whether the
step has changed anything on the cluster, and it names what the step has added or removed. A
pipeline that breaks off has run its first steps and the one that fails, and nothing after it.
-/

namespace TenantBroker.Pipeline

open Cluster (Call Failure Key Kind Name NamesByText Program Store keyOf)
open Cluster.Program
open Cluster.Store (IsOf Reachable Regular handle isListed takes)

/-! ## Steps on the broker's kinds -/

/-- A step on one of the broker's kinds as it is built, with a text for the name that it is given.
-/
inductive Step.Built : Step → Prop
  | create {kind : Kind} {manifest : Json} {toleratesExisting : Bool} {step : Step}
      (hkind : kind ∈ Kind.all) (hnamed : NamesByText manifest)
      (h : Step.create kind manifest toleratesExisting = .ok step) : Built step
  | delete {kind : Kind} (hkind : kind ∈ Kind.all) (name : String) (ns : Json) :
      Built (Step.delete kind (.str name) ns)
  | deleteAll {kind : Kind} (hkind : kind ∈ Kind.all) (ns : Json) : Built (Step.deleteAll kind ns)

variable {step : Step} {steps : List Step} {kind : Kind} {manifest ns : Json} {s t u : Store}
  {outcome : StepOutcome}

/-- A step is built from a manifest whose metadata are a record. -/
theorem create_eq_ok_iff {toleratesExisting : Bool} :
    Step.create kind manifest toleratesExisting = .ok step ↔
      step = Step.ofManifest kind manifest toleratesExisting ∧
        ∃ metadata, manifest.metadata = .ok (.obj metadata) := by
  simp only [Step.create, bind_eq_ok_iff, pure_eq_ok_iff]
  constructor
  · rintro ⟨metadata, hmetadata, fields, hfields, rfl⟩
    cases metadata with
    | obj members => exact ⟨rfl, members, hmetadata⟩
    | _ => cases hfields
  · rintro ⟨rfl, metadata, hmetadata⟩
    exact ⟨.obj metadata, hmetadata, metadata, rfl, rfl⟩

/-- A step that was built has a label. -/
theorem Step.Built.label (h : step.Built) : ∃ label, step.label = .ok label := by
  cases h with
  | create hkind hnamed h =>
    obtain ⟨rfl, metadata, hmetadata⟩ := create_eq_ok_iff.mp h
    exact label_of_manifest rfl hmetadata
  | delete hkind name ns => exact label_of_no_manifest _ rfl
  | deleteAll hkind ns => exact label_of_no_manifest _ rfl

/-- A step that was built makes calls on the broker's kinds. -/
theorem Step.Built.makes (h : step.Built) : step.Makes Call.BuiltIn := by
  cases h with
  | create hkind hnamed h =>
    obtain ⟨rfl, -⟩ := create_eq_ok_iff.mp h
    rintro manifest ⟨⟩
    exact ⟨hkind, hnamed⟩
  | delete hkind name ns => exact hkind
  | deleteAll hkind ns => exact ⟨hkind, fun _ ↦ hkind⟩

/-- A step that was built keeps the store regular. -/
theorem regular_runAction (h : s.Regular) (hstep : step.Built) :
    ((runAction step).run handle s).2.Regular :=
  run_of_only (fun _ hc _ hs ↦ hs.handle hc) (only_runAction hstep.makes) h

/-! ## What an outcome says -/

/-- What the names of an outcome say. A create that changes something names the one object that it
has added, and a delete names what it was to delete. A delete of all objects names those that it has
removed of its kind in its namespace, in ascending order; unless listing or deleting them has been
given a failure none of them is left. -/
def NamesTell (step : Step) (s t : Store) (outcome : StepOutcome) : Prop :=
  match step.action with
  | .create => outcome.changed = true → ∃ key object,
      t.objects = s.objects ++ [(key, object)] ∧ key.kind = step.kind.name ∧
        outcome.names = [key.name.toJson]
  | .delete => outcome.names = [step.name]
  | .deleteAll =>
    (∃ texts : List String, outcome.names = texts.map .str ∧ texts.Pairwise (· < ·) ∧
      ∀ text, text ∈ texts ↔
        ∃ o ∈ s.objects, o ∉ t.objects ∧ IsOf step.kind step.ns o.1 ∧ o.1.name = .text text) ∧
    (s.failure? .list step.kind = none → s.failure? .delete step.kind = none →
      ∀ o ∈ t.objects, ¬ IsOf step.kind step.ns o.1)

/-- What the outcome of a step says about the objects before and after the step. It is a change
exactly if the objects differ, and then their keys do. -/
structure Accounts (step : Step) (s t : Store) (outcome : StepOutcome) : Prop where
  ofStep : outcome.step = step
  changed : outcome.changed = true ↔ t.objects ≠ s.objects
  differs : t.objects ≠ s.objects → ∃ key, t.has key ≠ s.has key
  names : NamesTell step s t outcome

/-- A step that leaves the objects as they are has changed nothing. -/
theorem accounts_unchanged {names : List Json} (hobjects : t.objects = s.objects)
    (hnames : NamesTell step s t ⟨step, false, names⟩) :
    Accounts step s t ⟨step, false, names⟩ where
  ofStep := rfl
  changed := iff_of_false Bool.false_ne_true fun h ↦ h hobjects
  differs h := absurd hobjects h
  names := hnames

/-- A step after which the keys differ has changed something. -/
theorem accounts_changed {names : List Json} (key : Key) (hkey : t.has key ≠ s.has key)
    (hnames : NamesTell step s t ⟨step, true, names⟩) :
    Accounts step s t ⟨step, true, names⟩ where
  ofStep := rfl
  changed := iff_of_true rfl fun hsame ↦ hkey (Cluster.Store.has_congr hsame key)
  differs _ := ⟨key, hkey⟩
  names := hnames

/-! ## Steps that create -/

/-- A create that goes through has added the object that it names, or it has found one. -/
theorem accounts_create (haction : step.action = .create)
    (hmanifest : step.manifest = some manifest) (hnamed : NamesByText manifest)
    (hrun : (runAction step).run handle s = (.ok outcome, t)) :
    Accounts step s t outcome := by
  simp only [runAction, haction, runCreate, hmanifest, run_call, handle] at hrun
  rcases Cluster.Store.create_cases s step.kind manifest with ⟨f, after, log, he⟩ |
    ⟨name, ns, object, after, log, key, hd, hk, ha, he⟩
  · simp only [he] at hrun
    split at hrun
    · cases hlabel : step.label with
      | error d => simp [hlabel] at hrun
      | ok label =>
        simp only [hlabel, run_done, Prod.mk.injEq, Except.ok.injEq] at hrun
        obtain ⟨rfl, rfl⟩ := hrun
        refine accounts_unchanged rfl ?_
        simp only [NamesTell, haction, Bool.false_eq_true, false_imp_iff]
    · simp at hrun
  · obtain ⟨text, rfl⟩ := Cluster.Store.text_of_draft hnamed hd
    simp only [he, createdName_of_draft hd, run_done, Prod.mk.injEq, Except.ok.injEq] at hrun
    obtain ⟨rfl, rfl⟩ := hrun
    obtain ⟨hname, hkind, -⟩ := Cluster.Store.keyOf_eq_some hk
    have hword : Name.text text = key.name := Option.some.inj (Except.ok.inj hname)
    have hnew : ((s.noted after log).insert key object).has key ≠ s.has key := by
      rw [ha.free, (Cluster.Store.has_insert _ key key object).mpr (.inr rfl)]
      exact Bool.noConfusion
    refine accounts_changed key hnew ?_
    simp only [NamesTell, haction]
    exact fun _ ↦ ⟨key, object, rfl, hkind, by rw [← hword]; rfl⟩

/-! ## Steps that delete -/

/-- A delete that goes through has taken away the object that it names, or it has found none. -/
theorem accounts_delete (h : s.Regular) {name : String} (haction : step.action = .delete)
    (hname : step.name = .str name) (hrun : (runAction step).run handle s = (.ok outcome, t)) :
    Accounts step s t outcome := by
  have hnames (t : Store) (changed : Bool) : NamesTell step s t ⟨step, changed, [.str name]⟩ := by
    simp only [NamesTell, haction, hname]
  simp only [runAction, haction, runDelete, hname, run_call, handle] at hrun
  rcases Cluster.Store.delete_takes h.removes step.kind (.str name) step.ns with ⟨f, log, he⟩ |
    ⟨key, log, hk, hh, he⟩
  · simp only [he] at hrun
    split at hrun
    · simp only [run_done, Prod.mk.injEq, Except.ok.injEq] at hrun
      obtain ⟨rfl, rfl⟩ := hrun
      exact accounts_unchanged rfl (hnames _ false)
    · simp at hrun
  · simp only [he, run_done, Prod.mk.injEq, Except.ok.injEq] at hrun
    obtain ⟨rfl, rfl⟩ := hrun
    have hself := Cluster.Store.isListed_of_keyOf hk
    have hgone : (s.without (takes step.kind key)).has key = false := by
      rw [Bool.eq_false_iff, ne_eq, Cluster.Store.has_without,
        (Cluster.Store.takes_iff hself hself).mpr rfl]
      exact fun hthere ↦ Bool.noConfusion hthere.2
    refine accounts_changed key ?_ (hnames _ true)
    rw [hh, Cluster.Store.has_noted, hgone]
    exact Bool.noConfusion

/-! ## Steps that delete all objects of a kind -/

/-- Where every delete of a kind fails, deleting listed objects removes nothing. -/
theorem deleteItems_failing {f : Failure} (hf : s.failure? .delete kind = some f)
    (items names : List Json) (hrun : (deleteItems kind ns items).run handle s = (.ok names, t)) :
    names = [] ∧ t.objects = s.objects := by
  induction items generalizing s with
  | nil =>
    obtain ⟨⟨⟩, rfl⟩ := Prod.mk.inj hrun
    exact ⟨rfl, rfl⟩
  | cons item rest ih =>
    unfold deleteItems at hrun
    cases hname : listedName item with
    | error d => simp [hname] at hrun
    | ok name =>
      simp only [hname] at hrun
      split at hrun
      · simp only [run_call, handle, Cluster.Store.delete_failing hf] at hrun
        split at hrun
        · obtain ⟨hnames, hobjects⟩ := ih (s := s.logged .delete kind name) hf hrun
          exact ⟨hnames, hobjects⟩
        · simp at hrun
      · exact ih hf hrun

/-- An object that is listed for a kind in a namespace under the text of its own name. -/
def IsListing (kind : Kind) (ns : Json) (o : Key × Json) : Prop :=
  isListed kind ns o.1 = true ∧ ∃ name : String, o.1.name = .text name ∧ name ≠ "" ∧
    listedName o.2 = .ok (.str name)

/-- Where no delete of a kind fails, deleting listed objects takes all of them away. The induction
is on the objects: each of them is still there when those before it are gone. -/
theorem run_deleteItems (hf : s.failure? .delete kind = none) (hremoves : s.holding = false)
    (items : List (Key × Json)) (hitems : ∀ o ∈ items, IsListing kind ns o)
    (hthere : ∀ o ∈ items, s.has o.1 = true) (hdistinct : items.Pairwise fun a b ↦ a.1 ≠ b.1) :
    ∃ log, (deleteItems kind ns (items.map (·.2))).run handle s =
      (.ok (items.map fun o ↦ .str o.1.name.word),
        (s.without fun key ↦ items.any fun o ↦ takes kind o.1 key).noted s.generated log) := by
  induction items generalizing s with
  | nil =>
    refine ⟨s.log, ?_⟩
    rw [Cluster.Store.without_eq_self fun _ _ ↦ rfl]
    rfl
  | cons item rest ih =>
    obtain ⟨⟨hlisted, name, hname, hne, hown⟩, hrest⟩ := List.forall_mem_cons.mp hitems
    obtain ⟨hpresent, hlater⟩ := List.forall_mem_cons.mp hthere
    obtain ⟨happart, hdistinct⟩ := List.pairwise_cons.mp hdistinct
    have hk : keyOf kind (.str name) ns = .ok (some item.1) :=
      Cluster.Store.keyOf_of_isListed hlisted (by rw [hname]; rfl)
    have htruthy : (Json.str name).isTruthy = true := by simpa [Json.isTruthy] using hne
    have hdelete := Cluster.Store.delete_unhindered hf hk
    rw [if_pos hpresent, Cluster.Store.remove_eq_without
      (s := s.logged .delete kind (.str name)) hremoves] at hdelete
    -- A namespace takes along what is in it, but no other namespace.
    have hleft : ∀ o ∈ rest, (s.without (takes kind item.1)).has o.1 = true := by
      intro o ho
      refine (Cluster.Store.has_without s _ o.1).mpr ⟨hlater o ho, Bool.eq_false_iff.mpr ?_⟩
      rw [ne_eq, Cluster.Store.takes_iff hlisted (hrest o ho).1]
      exact (happart o ho).symm
    obtain ⟨log, hrun⟩ := ih (s := (s.logged .delete kind (.str name)).without (takes kind item.1))
      hf hremoves hrest hleft hdistinct
    refine ⟨log, ?_⟩
    rw [Cluster.Store.without_without] at hrun
    simp only [List.map_cons, deleteItems, hown, if_pos htruthy, run_call, handle, hdelete, run_map,
      hrun, Except.map, hname, Name.word, List.any_cons]
    rfl

/-- What a regular store lists is listed under its own name. -/
theorem isListing_of_mem_listed (h : s.Regular) {o : Key × Json} (ho : o ∈ s.listed kind ns) :
    IsListing kind ns o := by
  obtain ⟨hmem, hlisted⟩ := Cluster.Store.mem_listed_iff.mp ho
  exact ⟨hlisted, h.labelled o hmem⟩

/-- The names of what was listed tell what a sweep has taken away. -/
theorem namesTell_sweep (h : s.Regular) (hkind : step.kind ∈ Kind.all)
    (haction : step.action = .deleteAll)
    (hobjects : t.objects = (s.sweep step.kind step.ns).objects) (changed : Bool) :
    NamesTell step s t
      ⟨step, changed, (s.listed step.kind step.ns).map fun o ↦ .str o.1.name.word⟩ := by
  simp only [NamesTell, haction, hobjects]
  refine ⟨⟨(s.listed step.kind step.ns).map fun o ↦ o.1.name.word, List.map_map.symm,
    h.listed_ascends step.kind step.ns, fun text ↦ List.mem_map.trans ⟨?_, ?_⟩⟩, ?_⟩
  · rintro ⟨o, ho, rfl⟩
    obtain ⟨hmem, hof⟩ := (h.mem_listed_iff_isOf hkind).mp ho
    obtain ⟨name, hname, -⟩ := h.labelled o hmem
    exact ⟨o, hmem, Cluster.Store.not_mem_sweep_of_listed ho, hof, by rw [hname]; rfl⟩
  · rintro ⟨o, hmem, -, hof, hname⟩
    exact ⟨o, (h.mem_listed_iff_isOf hkind).mpr ⟨hmem, hof⟩, by rw [hname]; rfl⟩
  · intro _ _ o ho hof
    have hlisted := (h.mem_listed_iff_isOf hkind).mpr ⟨Cluster.Store.mem_of_mem_sweep ho, hof⟩
    exact Cluster.Store.not_mem_sweep_of_listed hlisted ho

/-- A sweep has changed something exactly if something was listed. -/
theorem accounts_sweep (h : s.Regular) (hkind : step.kind ∈ Kind.all)
    (haction : step.action = .deleteAll) {names : List Json}
    (hlisted : names = (s.listed step.kind step.ns).map fun o ↦ .str o.1.name.word)
    (hobjects : t.objects = (s.sweep step.kind step.ns).objects) :
    Accounts step s t ⟨step, !names.isEmpty, names⟩ := by
  have hnames (changed : Bool) : NamesTell step s t ⟨step, changed, names⟩ :=
    hlisted ▸ namesTell_sweep h hkind haction hobjects changed
  cases hitems : s.listed step.kind step.ns with
  | nil =>
    obtain rfl : names = [] := by rw [hlisted, hitems]; rfl
    refine accounts_unchanged ?_ (hnames false)
    rw [hobjects, Cluster.Store.sweep_eq_self hitems]
  | cons item rest =>
    obtain rfl : names = .str item.1.name.word :: rest.map fun o ↦ .str o.1.name.word := by
      rw [hlisted, hitems]
      rfl
    have hitem : item ∈ s.listed step.kind step.ns := hitems ▸ List.mem_cons_self
    refine accounts_changed item.1 ?_ (hnames true)
    rw [Cluster.Store.has_congr hobjects, Cluster.Store.has_sweep_of_listed hitem,
      Cluster.Store.has_of_mem (Cluster.Store.mem_listed_iff.mp hitem).1]
    exact Bool.noConfusion

/-- A delete of all objects that goes through has taken away what it names, in ascending order. -/
theorem accounts_deleteAll (h : s.Regular) (hkind : step.kind ∈ Kind.all)
    (haction : step.action = .deleteAll) (hrun : (runAction step).run handle s = (.ok outcome, t)) :
    Accounts step s t outcome := by
  have hreply := Cluster.Store.list_of_labelled h.labelled step.kind step.ns
  simp only [runAction, haction, runDeleteAll, run_call, handle, hreply,
    Cluster.Store.list_snd] at hrun
  -- What leaves all objects there is a failure that counts as nothing found.
  have hnone (hfails : s.failure? .list step.kind = none → s.failure? .delete step.kind ≠ none)
      (hobjects : t.objects = s.objects) : Accounts step s t ⟨step, false, []⟩ := by
    refine accounts_unchanged hobjects ?_
    simp only [NamesTell, haction, hobjects]
    refine ⟨⟨[], rfl, .nil, fun text ↦ iff_of_false List.not_mem_nil ?_⟩,
      fun hlist hdelete ↦ absurd hdelete (hfails hlist)⟩
    rintro ⟨o, ho, hgone, -⟩
    exact hgone ho
  cases hlist : s.failure? .list step.kind with
  | some f =>
    simp only [hlist] at hrun
    split at hrun
    · simp only [run_done, Prod.mk.injEq, Except.ok.injEq] at hrun
      obtain ⟨rfl, rfl⟩ := hrun
      exact hnone (fun hnone ↦ by simp [hlist] at hnone) rfl
    · simp at hrun
  | none =>
    simp only [hlist, run_map] at hrun
    cases hdelete : s.failure? .delete step.kind with
    | some f =>
      obtain ⟨hnames, rfl⟩ := Prod.mk.inj hrun
      obtain ⟨names, hdeleted, rfl⟩ := map_eq_ok_iff.mp hnames
      obtain ⟨rfl, hobjects⟩ := deleteItems_failing (s := s.logged .list step.kind step.ns) hdelete
        ((s.listed step.kind step.ns).map (·.2)) names (Prod.ext hdeleted rfl)
      exact hnone (fun _ ↦ by simp [hdelete]) hobjects
    | none =>
      obtain ⟨log, hitems⟩ := run_deleteItems (s := s.logged .list step.kind step.ns) hdelete
        h.removes (s.listed step.kind step.ns) (fun o ho ↦ isListing_of_mem_listed h ho)
        (fun o ho ↦ Cluster.Store.has_of_mem (Cluster.Store.mem_listed_iff.mp ho).1)
        h.listed_distinct
      rw [hitems] at hrun
      obtain ⟨houtcome, rfl⟩ := Prod.mk.inj hrun
      obtain rfl := Except.ok.inj houtcome
      exact accounts_sweep h hkind haction rfl rfl

/-! ## Pipelines -/

variable {instanceId : String}

/-- A step that was built and goes through accounts for what it did. -/
theorem accounts_of_built (h : s.Regular) (hstep : step.Built)
    (hrun : (runStep instanceId step).run handle s = (.ok outcome, t)) :
    Accounts step s t outcome := by
  have hdone : (runAction step).run handle s = (.ok outcome, t) := by
    rw [runStep, run_map] at hrun
    obtain ⟨houtcome, hafter⟩ := Prod.mk.inj hrun
    exact Prod.ext (mapError_eq_ok_iff.mp houtcome) hafter
  cases hstep with
  | create hkind hnamed hbuilt =>
    obtain ⟨rfl, -⟩ := create_eq_ok_iff.mp hbuilt
    exact accounts_create rfl rfl hnamed hdone
  | delete hkind name ns => exact accounts_delete h rfl rfl hdone
  | deleteAll hkind ns => exact accounts_deleteAll h hkind rfl hdone

/-- Steps that have gone through one after the other, each with an outcome that accounts for it. -/
inductive Accounted (instanceId : String) : List Step → List StepOutcome → Store → Store → Prop
  | done (s : Store) : Accounted instanceId [] [] s s
  | next {step : Step} {steps : List Step} {outcome : StepOutcome} {outcomes : List StepOutcome}
      {s t u : Store} (hrun : (runStep instanceId step).run handle s = (.ok outcome, t))
      (haccounts : Accounts step s t outcome) (h : Accounted instanceId steps outcomes t u) :
      Accounted instanceId (step :: steps) (outcome :: outcomes) s u

/-- There is one outcome for each step, in their order. -/
theorem Accounted.ofSteps {outcomes : List StepOutcome}
    (h : Accounted instanceId steps outcomes s t) : outcomes.map StepOutcome.step = steps := by
  induction h with
  | done s => rfl
  | next hrun haccounts _ ih => rw [List.map_cons, haccounts.ofStep, ih]

section Runs

variable {σ : Type} {handler : Cluster.Handler σ} {before after : σ}
  (hlabel : ∃ label, step.label = .ok label) (rest : List Step)
include hlabel

/-- A pipeline whose first step goes through goes on with the other steps. -/
theorem run_runPipeline_ok
    (hstep : (runStep instanceId step).run handler before = (.ok outcome, after)) :
    (runPipeline instanceId (step :: rest)).run handler before =
        (((runPipeline instanceId rest).run handler after).1.map (outcome :: ·),
          ((runPipeline instanceId rest).run handler after).2) ∧
      (runPipeline instanceId (step :: rest)).calls handler before =
        (runStep instanceId step).calls handler before ++
          (runPipeline instanceId rest).calls handler after := by
  obtain ⟨label, hlabel⟩ := hlabel
  simp only [runPipeline, hlabel]
  constructor
  · rw [run_andThen_ok hstep, run_map]
  · rw [Program.andThen, calls_bind, hstep, calls_map]

/-- A pipeline whose first step fails ends with this failure. -/
theorem run_runPipeline_error {f : PipelineFailure}
    (hstep : (runStep instanceId step).run handler before = (.error f, after)) :
    (runPipeline instanceId (step :: rest)).run handler before = (.error f, after) ∧
      (runPipeline instanceId (step :: rest)).calls handler before =
        (runStep instanceId step).calls handler before := by
  obtain ⟨label, hlabel⟩ := hlabel
  simp only [runPipeline, hlabel]
  constructor
  · exact run_andThen_error hstep
  · rw [Program.andThen, calls_bind, hstep]
    exact List.append_nil _

end Runs

/-- A pipeline stops at a step: the steps before it go through, and it makes their calls and then
those of this step alone, which fails. -/
structure StopsAt (instanceId : String) (steps first : List Step) (step : Step) (s t u : Store)
    (f : PipelineFailure) : Prop where
  split : ∃ rest, steps = first ++ step :: rest
  before : ∃ outcomes, (runPipeline instanceId first).run handle s = (.ok outcomes, t) ∧
    Accounted instanceId first outcomes s t
  fails : (runStep instanceId step).run handle t = (.error f, u)
  calls : (runPipeline instanceId steps).calls handle s =
    (runPipeline instanceId first).calls handle s ++ (runStep instanceId step).calls handle t

/-- A pipeline whose first step goes through stops where the other steps do. -/
theorem StopsAt.cons {first rest : List Step} {next : Step} {after : Store} {f : PipelineFailure}
    (hlabel : ∃ label, step.label = .ok label)
    (hrun : (runStep instanceId step).run handle s = (.ok outcome, after))
    (haccounts : Accounts step s after outcome)
    (h : StopsAt instanceId rest first next after t u f) :
    StopsAt instanceId (step :: rest) (step :: first) next s t u f where
  split := h.split.imp fun others hothers ↦ congrArg (step :: ·) hothers
  before := by
    obtain ⟨outcomes, hfirst, haccounted⟩ := h.before
    refine ⟨outcome :: outcomes, ?_, .next hrun haccounts haccounted⟩
    rw [(run_runPipeline_ok hlabel first hrun).1, hfirst]
    rfl
  fails := h.fails
  calls := by
    rw [(run_runPipeline_ok hlabel rest hrun).2, (run_runPipeline_ok hlabel first hrun).2, h.calls,
      List.append_assoc]

/-- A pipeline goes through and accounts for all of its steps, or it stops at one of them. The
induction is on the steps: what the first one leaves is regular. -/
theorem accounted_or_stopsAt (h : s.Regular) (hsteps : ∀ step ∈ steps, step.Built)
    (instanceId : String) :
    (∃ outcomes t, (runPipeline instanceId steps).run handle s = (.ok outcomes, t) ∧
      Accounted instanceId steps outcomes s t) ∨
    ∃ f u, (runPipeline instanceId steps).run handle s = (.error f, u) ∧
      ∃ first step t, StopsAt instanceId steps first step s t u f := by
  induction steps generalizing s with
  | nil => exact .inl ⟨[], s, rfl, .done s⟩
  | cons step rest ih =>
    obtain ⟨hstep, hrest⟩ := List.forall_mem_cons.mp hsteps
    rcases hrun : (runStep instanceId step).run handle s with ⟨result, after⟩
    cases result with
    | error f =>
      obtain ⟨hfails, hcalls⟩ := run_runPipeline_error hstep.label rest hrun
      exact .inr ⟨f, after, hfails, [], step, s, ⟨rest, rfl⟩, ⟨[], rfl, .done s⟩, hrun, hcalls⟩
    | ok outcome =>
      have haccounts := accounts_of_built h hstep hrun
      have hregular : after.Regular := by
        have hafter := regular_runAction h hstep
        rw [runStep, run_map] at hrun
        rwa [(Prod.mk.inj hrun).2] at hafter
      have hgoes := (run_runPipeline_ok hstep.label rest hrun).1
      rcases ih hregular hrest with ⟨outcomes, t, hothers, haccounted⟩ |
        ⟨f, u, hothers, first, next, t, hstops⟩
      · rw [hothers] at hgoes
        exact .inl ⟨outcome :: outcomes, t, hgoes, .next hrun haccounts haccounted⟩
      · rw [hothers] at hgoes
        exact .inr ⟨f, u, hgoes, step :: first, next, t,
          hstops.cons hstep.label hrun haccounts⟩

/-- A pipeline that goes through has an outcome for each of its steps, which accounts for what the
step did. One that fails has stopped at a step, after which nothing was called and nothing
changed. -/
theorem runPipeline_accounts (h : s.Reachable) (hsteps : ∀ step ∈ steps, step.Built)
    (instanceId : String) :
    (∀ outcomes t, (runPipeline instanceId steps).run handle s = (.ok outcomes, t) →
      outcomes.map StepOutcome.step = steps ∧ Accounted instanceId steps outcomes s t) ∧
    ∀ f u, (runPipeline instanceId steps).run handle s = (.error f, u) →
      ∃ first step t, StopsAt instanceId steps first step s t u f := by
  rcases accounted_or_stopsAt h.regular hsteps instanceId with
    ⟨outcomes, t, hdone, haccounted⟩ | ⟨f, u, hfailed, hstops⟩
  · refine ⟨fun outcomes' t' hrun ↦ ?_, fun f u hrun ↦ ?_⟩
    · obtain ⟨houtcomes, rfl⟩ := Prod.mk.inj (hdone.symm.trans hrun)
      obtain rfl := Except.ok.inj houtcomes
      exact ⟨haccounted.ofSteps, haccounted⟩
    · cases hdone.symm.trans hrun
  · refine ⟨fun outcomes t hrun ↦ ?_, fun f' u' hrun ↦ ?_⟩
    · cases hfailed.symm.trans hrun
    · obtain ⟨hfailure, rfl⟩ := Prod.mk.inj (hfailed.symm.trans hrun)
      obtain rfl := Except.error.inj hfailure
      exact hstops

/-- Where roles cannot be listed and accounts cannot be created, a role is deleted by its name only,
and the namespace stays. -/
theorem runPipeline_accounts_hindered :
    let s := (Store.empty.fail .list "Role" (Cluster.notFoundFailure "roles")).fail .create
      "ServiceAccount" (Cluster.serverFailure .fatal "quota")
    let made (kind : Kind) (name : String) (more : List (String × Json)) : Step :=
      .ofManifest kind (.obj [("metadata", .obj (("name", .str name) :: more))]) false
    let first : List Step := [made Kind.namespaces "t" [],
      made Kind.roles "b" [("namespace", .str "t")], .deleteAll Kind.roles (.str "t"),
      .delete Kind.roles (.str "b") (.str "t")]
    let steps : List Step := first ++ [made Kind.serviceAccounts "u" [("namespace", .str "t")],
      .delete Kind.namespaces (.str "t") .null]
    s.Reachable ∧ (∀ step ∈ steps, step.Built) ∧
      (∃ outcomes t, (runPipeline "i" first).run handle s = (.ok outcomes, t) ∧
        outcomes.map (fun o ↦ (o.changed, o.names)) =
          [(true, [.str "t"]), (true, [.str "b"]), (false, []), (true, [.str "b"])] ∧
        outcomes.map StepOutcome.step = first ∧ Accounted "i" first outcomes s t) ∧
      ∃ f u, (runPipeline "i" steps).run handle s = (.error f, u) ∧
        ∃ before step t, StopsAt "i" steps before step s t u f := by
  intro s made first steps
  have hs : s.Reachable :=
    .tail (.tail .refl (.fail .list "Role" _)) (.fail .create "ServiceAccount" _)
  have hmade (kind : Kind) (hkind : kind ∈ Kind.all) (name : String)
      (more : List (String × Json)) : (made kind name more).Built := by
    have hstep : Step.create kind (.obj [("metadata", .obj (("name", .str name) :: more))]) false =
        .ok (made kind name more) := rfl
    refine .create hkind ?_ hstep
    exact fun value hvalue _ ↦ ⟨name, (Except.ok.inj hvalue).symm⟩
  have hsteps : ∀ step ∈ steps, step.Built := by
    simp only [steps, first, List.forall_mem_append, List.forall_mem_cons]
    exact ⟨⟨hmade _ (by decide) _ _, hmade _ (by decide) _ _, .deleteAll (by decide) _,
      .delete (by decide) _ _, List.forall_mem_nil _⟩, hmade _ (by decide) _ _,
      .delete (by decide) _ _, List.forall_mem_nil _⟩
  have hfirst : ∀ step ∈ first, step.Built := fun step hstep ↦
    hsteps step (List.mem_append_left _ hstep)
  obtain ⟨outcomes, t, hgoes, hnames⟩ : ∃ outcomes t,
      (runPipeline "i" first).run handle s = (.ok outcomes, t) ∧
        outcomes.map (fun o ↦ (o.changed, o.names)) =
          [(true, [.str "t"]), (true, [.str "b"]), (false, []), (true, [.str "b"])] :=
    ⟨_, _, rfl, rfl⟩
  obtain ⟨f, u, hstops⟩ : ∃ f u, (runPipeline "i" steps).run handle s = (.error f, u) :=
    ⟨_, _, rfl⟩
  exact ⟨hs, hsteps, ⟨outcomes, t, hgoes, hnames,
    (runPipeline_accounts hs hfirst "i").1 outcomes t hgoes⟩, f, u, hstops,
    (runPipeline_accounts hs hsteps "i").2 f u hstops⟩

end TenantBroker.Pipeline
