import Mathlib.Data.List.Forall2
import TenantBroker.Proofs.Kubectl.Exchange
import TenantBroker.Proofs.Pipeline.Success

/-!
# Pipelines of deletes behind kubectl

The exchanges of a pipeline that only deletes. A step that deletes one object is one exchange. A
step that deletes all objects of a kind lists them, and then has one exchange for each of them that
has a name. The next exchange begins only if what the one before it was to take away is gone, so the
order of the steps is kept whatever the cluster answers.
-/

namespace TenantBroker.Pipeline

open Cluster (Call Failure Kind)
open Kubectl (Exchange FindsNothing Follows Lists follows_bind follows_map)

/-! ## Deleting what is listed -/

/-- The names of listed objects that have one. There are none if the metadata of an object cannot be
read. -/
def listedNames (items : List Json) : Except Defect (List Json) :=
  (items.mapM listedName).map (·.filter Json.isTruthy)

/-- The name of a listed object has a text if the object does. -/
theorem isWritable_listedName {item name : Json} (hitem : item.isWritable = true)
    (h : listedName item = .ok name) : name.isWritable = true := by
  unfold listedName at h
  cases hmetadata : item.metadata with
  | error d =>
    rw [hmetadata] at h
    cases h
  | ok metadata =>
    rw [hmetadata] at h
    exact Json.isWritable_getD (Json.isWritable_metadata hitem hmetadata) Json.isWritable_null h

/-- The object of an exchange was deleted, or it was found to be gone. -/
def Deleted (kind : Kind) (place name : Json) (e : Exchange) : Prop :=
  e.call = .delete kind name place ∧ e.Clears

/-- The exchanges that delete listed objects, and whether none of the objects is left. -/
inductive Sweep (kind : Kind) (place : Json) : List Json → List Exchange → Bool → Prop
  | done : Sweep kind place [] [] true
  | nameless {item name : Json} {rest : List Json} {exchanges : List Exchange} {whole : Bool}
      (hname : listedName item = .ok name) (hfalsy : ¬ name.isTruthy = true)
      (h : Sweep kind place rest exchanges whole) : Sweep kind place (item :: rest) exchanges whole
  | deleted {item name : Json} {rest : List Json} {e : Exchange} {exchanges : List Exchange}
      {whole : Bool} (hname : listedName item = .ok name) (htruthy : name.isTruthy = true)
      (he : Deleted kind place name e) (h : Sweep kind place rest exchanges whole) :
      Sweep kind place (item :: rest) (e :: exchanges) whole
  | kept {item name : Json} {e : Exchange} (hname : listedName item = .ok name)
      (htruthy : name.isTruthy = true) (hcall : e.call = .delete kind name place)
      (hkept : ¬ e.Clears) (rest : List Json) : Sweep kind place (item :: rest) [e] false
  | unreadable {item : Json} {d : Defect} (hname : listedName item = .error d)
      (rest : List Json) : Sweep kind place (item :: rest) [] false

/-- The exchange deletes a listed object that has a name. -/
def IsAbout (kind : Kind) (place : Json) (items : List Json) (e : Exchange) : Prop :=
  ∃ item ∈ items, ∃ name, listedName item = .ok name ∧ name.isTruthy = true ∧
    e.call = .delete kind name place

variable {kind : Kind} {place : Json} {items : List Json} {exchanges : List Exchange} {whole : Bool}

/-- An exchange about one of some objects is about one of more objects. -/
theorem IsAbout.cons {e : Exchange} (h : IsAbout kind place items e) (item : Json) :
    IsAbout kind place (item :: items) e := by
  obtain ⟨other, hother, h⟩ := h
  exact ⟨other, List.mem_cons_of_mem item hother, h⟩

/-- The names of listed objects are put together one by one. -/
theorem listedNames_cons {item name : Json} {names : List Json}
    (hname : listedName item = .ok name) (h : listedNames items = .ok names) :
    listedNames (item :: items) = .ok (if name.isTruthy then name :: names else names) := by
  obtain ⟨all, hall, rfl⟩ := map_eq_ok_iff.mp h
  unfold listedNames
  rw [List.mapM_cons, hname, hall, ← List.filter_cons]
  rfl

namespace Sweep

/-- Every exchange is about a listed object that has a name. -/
theorem isAbout (h : Sweep kind place items exchanges whole) :
    ∀ e ∈ exchanges, IsAbout kind place items e := by
  induction h with
  | done => exact List.forall_mem_nil _
  | nameless hname hfalsy _ ih => exact fun e he ↦ (ih e he).cons _
  | deleted hname htruthy he _ ih =>
    exact List.forall_mem_cons.mpr
      ⟨⟨_, List.mem_cons_self, _, hname, htruthy, he.1⟩, fun e he ↦ (ih e he).cons _⟩
  | kept hname htruthy hcall hkept rest =>
    exact List.forall_mem_singleton.mpr ⟨_, List.mem_cons_self, _, hname, htruthy, hcall⟩
  | unreadable hname rest => exact List.forall_mem_nil _

/-- After an exchange whose object is left there is no other. -/
theorem clears_of_next (h : Sweep kind place items exchanges whole) :
    ∀ e ∈ exchanges.dropLast, e.Clears := by
  induction h with
  | done => exact List.forall_mem_nil _
  | nameless hname hfalsy _ ih => exact ih
  | @deleted item name rest e exchanges whole hname htruthy he _ ih =>
    cases exchanges with
    | nil => exact List.forall_mem_nil _
    | cons next later => exact List.forall_mem_cons.mpr ⟨he.2, ih⟩
  | kept => exact List.forall_mem_nil _
  | unreadable => exact List.forall_mem_nil _

/-- If none of the objects is left every exchange has taken one away, or found none. -/
theorem clears (h : Sweep kind place items exchanges true) : ∀ e ∈ exchanges, e.Clears := by
  generalize hwhole : true = whole at h
  induction h with
  | done => exact List.forall_mem_nil _
  | nameless hname hfalsy _ ih => exact ih hwhole
  | deleted hname htruthy he _ ih => exact List.forall_mem_cons.mpr ⟨he.2, ih hwhole⟩
  | kept => cases hwhole
  | unreadable => exact List.forall_mem_nil _

/-- If an object is left then an exchange has left it, or the metadata of an object cannot be read.
-/
theorem halts (h : Sweep kind place items exchanges false) :
    (∃ e ∈ exchanges, ¬ e.Clears) ∨ ∃ item ∈ items, ∃ d, listedName item = .error d := by
  generalize hwhole : false = whole at h
  induction h with
  | done => cases hwhole
  | nameless hname hfalsy _ ih =>
    refine (ih hwhole).imp_right ?_
    rintro ⟨item, hitem, hd⟩
    exact ⟨item, List.mem_cons_of_mem _ hitem, hd⟩
  | deleted hname htruthy he _ ih =>
    rcases ih hwhole with ⟨e, he, hkept⟩ | ⟨item, hitem, hd⟩
    · exact .inl ⟨e, List.mem_cons_of_mem _ he, hkept⟩
    · exact .inr ⟨item, List.mem_cons_of_mem _ hitem, hd⟩
  | kept hname htruthy hcall hkept rest => exact .inl ⟨_, List.mem_cons_self, hkept⟩
  | unreadable hname rest => exact .inr ⟨_, List.mem_cons_self, _, hname⟩

/-- If none of the objects is left there was one exchange for each name, in their order. -/
theorem deletes (h : Sweep kind place items exchanges true) :
    ∃ names, listedNames items = .ok names ∧
      List.Forall₂ (Deleted kind place) names exchanges := by
  generalize hwhole : true = whole at h
  induction h with
  | done => exact ⟨[], rfl, .nil⟩
  | nameless hname hfalsy _ ih =>
    obtain ⟨names, hnames, hall⟩ := ih hwhole
    exact ⟨names, by rw [listedNames_cons hname hnames, if_neg hfalsy], hall⟩
  | deleted hname htruthy he _ ih =>
    obtain ⟨names, hnames, hall⟩ := ih hwhole
    exact ⟨_ :: names, by rw [listedNames_cons hname hnames, if_pos htruthy], .cons he hall⟩
  | kept => cases hwhole
  | unreadable => cases hwhole

end Sweep

/-- Deleting listed objects is a sweep. -/
theorem sweep_of_follows {outcome : Except Failure (List Json)}
    (h : Follows (deleteItems kind place items) exchanges outcome) :
    Sweep kind place items exchanges outcome.isOk := by
  induction items generalizing exchanges outcome with
  | nil =>
    obtain ⟨rfl, rfl⟩ := h
    exact .done
  | cons item rest ih =>
    unfold deleteItems at h
    cases hname : listedName item with
    | error d =>
      rw [hname] at h
      obtain ⟨rfl, rfl⟩ := h
      exact .unreadable hname rest
    | ok name =>
      simp only [hname] at h
      split at h
      · next htruthy =>
        obtain ⟨e, later, reply, rfl, hcall, hanswers, h⟩ := h
        cases reply with
        | ok value =>
          obtain ⟨found, hfound, h⟩ := follows_map h
          have hwhole : outcome.isOk = found.isOk := by rw [hfound]; cases found <;> rfl
          rw [hwhole]
          exact .deleted hname htruthy ⟨hcall, Exchange.clears_of_ok hcall hanswers⟩ (ih h)
        | error f =>
          have hclears := Exchange.clears_iff_of_error hcall hanswers
          by_cases hf : f.isNotFound = true
          · simp only [if_pos hf] at h
            exact .deleted hname htruthy ⟨hcall, hclears.mpr hf⟩ (ih h)
          · simp only [if_neg hf] at h
            obtain ⟨rfl, rfl⟩ := h
            exact .kept hname htruthy hcall (fun h ↦ hf (hclears.mp h)) rest
      · next hfalsy => exact .nameless hname hfalsy (ih h)

/-! ## Steps that delete -/

/-- The exchanges of a step that deletes, and whether it has run through. -/
inductive Removal (step : Step) : List Exchange → Bool → Prop
  | deleted {e : Exchange} (haction : step.action = .delete)
      (h : Deleted step.kind step.ns step.name e) : Removal step [e] true
  | kept {e : Exchange} (haction : step.action = .delete)
      (hcall : e.call = .delete step.kind step.name step.ns) (hkept : ¬ e.Clears) :
      Removal step [e] false
  | absent {e : Exchange} (haction : step.action = .deleteAll)
      (hcall : e.call = .list step.kind step.ns) (h : FindsNothing e.run e.last) :
      Removal step [e] true
  | unlisted {e : Exchange} (haction : step.action = .deleteAll)
      (hcall : e.call = .list step.kind step.ns) (h : ¬ e.Clears) : Removal step [e] false
  | listed {e : Exchange} {items : List Json} {exchanges : List Exchange} {whole : Bool}
      (haction : step.action = .deleteAll) (hcall : e.call = .list step.kind step.ns)
      (hlists : Lists e.last items) (h : Sweep step.kind step.ns items exchanges whole) :
      Removal step (e :: exchanges) whole

/-- A name stands in the last listing of a kind in a namespace, and since then objects of this kind
were deleted there only. -/
def Found (before : List Exchange) (kind : Kind) (place name : Json) : Prop :=
  ∃ earlier listing since items, before = earlier ++ listing :: since ∧
    listing.call = .list kind place ∧ Lists listing.last items ∧
    (∃ item ∈ items, listedName item = .ok name) ∧ name.isTruthy = true ∧
    ∀ e ∈ since, ∃ other, e.call = .delete kind other place

/-- The calls of a step that deletes, after some exchanges. -/
inductive Step.Due (step : Step) (before : List Exchange) : Call → Prop
  | delete (haction : step.action = .delete) :
      step.Due before (.delete step.kind step.name step.ns)
  | list (haction : step.action = .deleteAll) : step.Due before (.list step.kind step.ns)
  | item {name : Json} (haction : step.action = .deleteAll)
      (h : Found before step.kind step.ns name) : step.Due before (.delete step.kind name step.ns)

/-- An exchange after which there is no more to delete: it has left what it was to take away, or it
lists an object whose metadata cannot be read. -/
def Halts (e : Exchange) : Prop :=
  ¬ e.Clears ∨ ∃ kind place items, e.call = .list kind place ∧ Lists e.last items ∧
    ∃ item ∈ items, ∃ d, listedName item = .error d

/-- The exchanges that leave no object of a kind in a namespace: either the kind was not found, or
its objects were listed and those with a name deleted. -/
inductive Swept (kind : Kind) (place : Json) : List Exchange → Prop
  | absent {e : Exchange} (hcall : e.call = .list kind place) (h : FindsNothing e.run e.last) :
      Swept kind place [e]
  | deleted {e : Exchange} {items names : List Json} {exchanges : List Exchange}
      (hcall : e.call = .list kind place) (hlists : Lists e.last items)
      (hnames : listedNames items = .ok names)
      (h : List.Forall₂ (Deleted kind place) names exchanges) : Swept kind place (e :: exchanges)

variable {step : Step}

/-- What is due after some exchanges is due after more that come before them. -/
theorem Step.Due.append {before : List Exchange} {c : Call} (h : step.Due before c)
    (earlier : List Exchange) : step.Due (earlier ++ before) c := by
  cases h with
  | delete haction => exact .delete haction
  | list haction => exact .list haction
  | item haction h =>
    obtain ⟨first, listing, since, items, rfl, h⟩ := h
    exact .item haction ⟨earlier ++ first, listing, since, items, by rw [List.append_assoc], h⟩

/-- A delete that is due is of the kind of the step. -/
theorem Step.Due.kind_eq {before : List Exchange} {kind : Kind} {name place : Json}
    (h : step.Due before (.delete kind name place)) : step.kind = kind := by
  generalize hc : Call.delete kind name place = c at h
  cases h with
  | delete => exact (Call.delete.inj hc).1.symm
  | list => cases hc
  | item => exact (Call.delete.inj hc).1.symm

/-- The only call of a step that deletes one object is this delete. -/
theorem Step.Due.eq_delete {before : List Exchange} {c : Call} (haction : step.action = .delete)
    (h : step.Due before c) : c = .delete step.kind step.name step.ns := by
  cases h with
  | delete => rfl
  | list hall => cases haction.symm.trans hall
  | item hall => cases haction.symm.trans hall

namespace Removal

/-- Every exchange makes a call that is due. -/
theorem due (h : Removal step exchanges whole) {before later : List Exchange} {e : Exchange}
    (hsplit : exchanges = before ++ e :: later) : step.Due before e.call := by
  have hsingle {first : Exchange} (hfirst : step.Due [] first.call)
      (hsplit : [first] = before ++ e :: later) : step.Due before e.call := by
    cases before with
    | nil =>
      obtain ⟨rfl, -⟩ := List.cons.inj hsplit
      exact hfirst
    | cons other since => simp at hsplit
  cases h with
  | deleted haction h => exact hsingle (h.1 ▸ .delete haction) hsplit
  | kept haction hcall hkept => exact hsingle (hcall ▸ .delete haction) hsplit
  | absent haction hcall h => exact hsingle (hcall ▸ .list haction) hsplit
  | unlisted haction hcall h => exact hsingle (hcall ▸ .list haction) hsplit
  | @listed listing items exchanges whole haction hcall hlists h =>
    cases before with
    | nil =>
      obtain ⟨rfl, -⟩ := List.cons.inj hsplit
      exact hcall ▸ .list haction
    | cons first since =>
      obtain ⟨rfl, rfl⟩ := List.cons.inj hsplit
      obtain ⟨item, hitem, name, hname, htruthy, he⟩ := h.isAbout e (by simp)
      rw [he]
      refine .item haction ⟨[], listing, since, items, rfl, hcall, hlists, ⟨item, hitem, hname⟩,
        htruthy, fun other hother ↦ ?_⟩
      obtain ⟨-, -, name, -, -, hother⟩ := h.isAbout other (List.mem_append_left _ hother)
      exact ⟨name, hother⟩

/-- After an exchange whose object is left there is no other. -/
theorem clears_of_next (h : Removal step exchanges whole) :
    ∀ e ∈ exchanges.dropLast, e.Clears := by
  cases h with
  | @listed listing items exchanges whole haction hcall hlists h =>
    cases exchanges with
    | nil => exact List.forall_mem_nil _
    | cons next later =>
      have hlisting : listing.Clears := by
        refine .inl ?_
        rw [hcall]
        exact ⟨items, hlists⟩
      exact List.forall_mem_cons.mpr ⟨hlisting, h.clears_of_next⟩
  | _ => exact List.forall_mem_nil _

/-- A step that deletes one object is one exchange, and it has run through exactly if the object is
gone. -/
theorem single (haction : step.action = .delete) (h : Removal step exchanges whole) :
    ∃ e, exchanges = [e] ∧ e.call = .delete step.kind step.name step.ns ∧
      (e.Clears ↔ whole = true) := by
  cases h with
  | @deleted e _ h => exact ⟨e, rfl, h.1, fun _ ↦ rfl, fun _ ↦ h.2⟩
  | @kept e _ hcall hkept => exact ⟨e, rfl, hcall, fun h ↦ absurd h hkept, nofun⟩
  | absent hall => cases haction.symm.trans hall
  | unlisted hall => cases haction.symm.trans hall
  | listed hall => cases haction.symm.trans hall

/-- A step that has run through and deletes all objects of a kind leaves none. -/
theorem sweeps (haction : step.action = .deleteAll) (h : Removal step exchanges true) :
    Swept step.kind step.ns exchanges := by
  cases h with
  | deleted hone => cases haction.symm.trans hone
  | absent _ hcall h => exact .absent hcall h
  | listed _ hcall hlists h =>
    obtain ⟨names, hnames, hall⟩ := h.deletes
    exact .deleted hcall hlists hnames hall

/-- Nothing is left of what a step that has run through was to take away. -/
theorem clears (h : Removal step exchanges true) : ∀ e ∈ exchanges, e.Clears := by
  cases h with
  | deleted _ h => exact List.forall_mem_singleton.mpr h.2
  | absent _ _ h => exact List.forall_mem_singleton.mpr (.inr h)
  | @listed listing items _ _ _ hcall hlists h =>
    exact List.forall_mem_cons.mpr ⟨.inl (hcall ▸ ⟨items, hlists⟩), h.clears⟩

/-- A step that has not run through has been brought to a halt. -/
theorem halts (h : Removal step exchanges false) : ∃ e ∈ exchanges, Halts e := by
  cases h with
  | kept _ _ hkept => exact ⟨_, List.mem_singleton_self _, .inl hkept⟩
  | unlisted _ _ hkept => exact ⟨_, List.mem_singleton_self _, .inl hkept⟩
  | listed _ hcall hlists h =>
    rcases h.halts with ⟨e, he, hkept⟩ | hunreadable
    · exact ⟨e, List.mem_cons_of_mem _ he, .inl hkept⟩
    · exact ⟨_, List.mem_cons_self, .inr ⟨_, _, _, hcall, hlists, hunreadable⟩⟩

end Removal

/-- A step that deletes: it has no manifest, and a name if it deletes one object. -/
def Step.Deletes (step : Step) : Prop :=
  step.manifest = none ∧ (step.action = .delete ∧ step.name ≠ .null ∨ step.action = .deleteAll)

/-- What a step that deletes does is a removal. -/
theorem removal_of_follows (hstep : step.Deletes) {outcome : Except Failure StepOutcome}
    (h : Follows (runAction step) exchanges outcome) : Removal step exchanges outcome.isOk := by
  obtain ⟨-, ⟨haction, hname⟩ | haction⟩ := hstep
  · simp only [runAction, haction] at h
    unfold runDelete at h
    split at h
    · next hnull => exact absurd hnull hname
    · obtain ⟨e, later, reply, rfl, hcall, hanswers, h⟩ := h
      cases reply with
      | ok value =>
        obtain ⟨rfl, rfl⟩ := h
        exact .deleted haction ⟨hcall, Exchange.clears_of_ok hcall hanswers⟩
      | error f =>
        have hclears := Exchange.clears_iff_of_error hcall hanswers
        by_cases hf : f.isNotFound = true
        · simp only [if_pos hf] at h
          obtain ⟨rfl, rfl⟩ := h
          exact .deleted haction ⟨hcall, hclears.mpr hf⟩
        · simp only [if_neg hf] at h
          obtain ⟨rfl, rfl⟩ := h
          exact .kept haction hcall fun h ↦ hf (hclears.mp h)
  · simp only [runAction, haction] at h
    obtain ⟨e, later, reply, rfl, hcall, hanswers, h⟩ := h
    cases reply with
    | ok items =>
      obtain ⟨found, hfound, h⟩ := follows_map h
      have hwhole : outcome.isOk = found.isOk := by rw [hfound]; cases found <;> rfl
      rw [hwhole]
      exact .listed haction hcall hanswers.lists (sweep_of_follows h)
    | error f =>
      have hclears := Exchange.clears_iff_of_error hcall hanswers
      by_cases hf : f.isNotFound = true
      · simp only [if_pos hf] at h
        obtain ⟨rfl, rfl⟩ := h
        exact .absent haction hcall (hanswers.fails.2.mp hf)
      · simp only [if_neg hf] at h
        obtain ⟨rfl, rfl⟩ := h
        exact .unlisted haction hcall fun h ↦ hf (hclears.mp h)

/-! ## Pipelines that delete -/

/-- The exchanges of steps that delete, and whether all of the steps have run through. -/
inductive Clearing : List Step → List Exchange → Bool → Prop
  | done : Clearing [] [] true
  | next {step : Step} {rest : List Step} {exchanges others : List Exchange} {whole : Bool}
      (hfirst : Removal step exchanges true) (h : Clearing rest others whole) :
      Clearing (step :: rest) (exchanges ++ others) whole
  | broken {step : Step} {exchanges : List Exchange} (hfirst : Removal step exchanges false)
      (rest : List Step) : Clearing (step :: rest) exchanges false

/-- A pipeline that deletes has the exchanges of its steps, up to the first that does not run
through. -/
theorem clearing_of_follows (instanceId : String) {steps : List Step}
    (hsteps : ∀ step ∈ steps, step.Deletes) {outcome : Except PipelineFailure (List StepOutcome)}
    (h : Follows (runPipeline instanceId steps) exchanges outcome) :
    Clearing steps exchanges outcome.isOk := by
  induction steps generalizing exchanges outcome with
  | nil =>
    obtain ⟨rfl, rfl⟩ := h
    exact .done
  | cons step rest ih =>
    obtain ⟨hstep, hrest⟩ := List.forall_mem_cons.mp hsteps
    obtain ⟨label, hlabel⟩ := label_of_no_manifest step hstep.1
    simp only [runPipeline, hlabel] at h
    obtain ⟨first, others, reported, rfl, hreported, h⟩ := follows_bind h
    obtain ⟨found, rfl, hfirst⟩ := follows_map hreported
    have hremoval := removal_of_follows hstep hfirst
    cases found with
    | error f =>
      obtain ⟨rfl, rfl⟩ := h
      rw [List.append_nil]
      exact .broken hremoval rest
    | ok value =>
      obtain ⟨outcomes, houtcomes, h⟩ := follows_map h
      have hwhole : outcome.isOk = outcomes.isOk := by rw [houtcomes]; cases outcomes <;> rfl
      rw [hwhole]
      exact .next hremoval (ih hrest h)

namespace Clearing

variable {steps : List Step}

/-- Every exchange makes a call that is due for one of the steps. -/
theorem due (h : Clearing steps exchanges whole) {before later : List Exchange} {e : Exchange}
    (hsplit : exchanges = before ++ e :: later) : ∃ step ∈ steps, step.Due before e.call := by
  induction h generalizing before with
  | done => simp at hsplit
  | @next step rest first others whole hfirst _ ih =>
    rcases List.append_eq_append_iff.mp hsplit with ⟨since, rfl, hothers⟩ | ⟨since, rfl, hlater⟩
    · obtain ⟨other, hother, hdue⟩ := ih hothers
      exact ⟨other, List.mem_cons_of_mem step hother, hdue.append first⟩
    · cases since with
      | nil =>
        have hothers : others = [] ++ e :: later := hlater.symm
        obtain ⟨other, hother, hdue⟩ := ih hothers
        refine ⟨other, List.mem_cons_of_mem step hother, ?_⟩
        rw [← List.append_nil before]
        exact hdue.append before
      | cons next rest =>
        obtain ⟨rfl, -⟩ := List.cons.inj hlater
        exact ⟨step, List.mem_cons_self, hfirst.due rfl⟩
  | broken hfirst rest => exact ⟨_, List.mem_cons_self, hfirst.due hsplit⟩

/-- After an exchange whose object is left there is no other. -/
theorem clears_of_next (h : Clearing steps exchanges whole) :
    ∀ e ∈ exchanges.dropLast, e.Clears := by
  induction h with
  | done => exact List.forall_mem_nil _
  | @next step rest first others whole hfirst _ ih =>
    cases others with
    | nil =>
      rw [List.append_nil]
      exact hfirst.clears_of_next
    | cons next later =>
      rw [List.dropLast_append_of_ne_nil (List.cons_ne_nil next later)]
      exact List.forall_mem_append.mpr ⟨hfirst.clears, ih⟩
  | broken hfirst rest => exact hfirst.clears_of_next

/-- Steps that have not all run through have been brought to a halt. -/
theorem halts (h : Clearing steps exchanges false) : ∃ e ∈ exchanges, Halts e := by
  generalize hwhole : false = whole at h
  induction h with
  | done => cases hwhole
  | next hfirst _ ih =>
    obtain ⟨e, he, hhalts⟩ := ih hwhole
    exact ⟨e, List.mem_append_right _ he, hhalts⟩
  | broken hfirst rest => exact hfirst.halts

/-- The exchanges of one step are its own. -/
theorem removal (h : Clearing [step] exchanges whole) : Removal step exchanges whole := by
  cases h with
  | next hfirst h =>
    cases h
    rwa [List.append_nil]
  | broken hfirst => exact hfirst

/-- The exchanges of steps in two parts are those of the first part, followed by those of the second
if the first has run through. -/
theorem split {first rest : List Step} (h : Clearing (first ++ rest) exchanges whole) :
    (∃ those others, exchanges = those ++ others ∧ Clearing first those true ∧
      Clearing rest others whole) ∨ Clearing first exchanges false ∧ whole = false := by
  induction first generalizing exchanges with
  | nil => exact .inl ⟨[], exchanges, rfl, .done, h⟩
  | cons step steps ih =>
    cases h with
    | next hfirst h =>
      rcases ih h with ⟨those, others, rfl, hthose, hothers⟩ | ⟨hbroken, rfl⟩
      · exact .inl ⟨_, others, (List.append_assoc _ _ _).symm, .next hfirst hthose, hothers⟩
      · exact .inr ⟨.next hfirst hbroken, rfl⟩
    | broken hfirst _ => exact .inr ⟨.broken hfirst steps, rfl⟩

end Clearing

end TenantBroker.Pipeline
