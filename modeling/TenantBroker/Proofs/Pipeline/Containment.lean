import TenantBroker.Proofs.Kubectl.Words
import TenantBroker.Proofs.Pipeline.Success
import TenantBroker.Proofs.Tenant.Record

/-!
# Which failures a step contains

A step reports the causes for which its calls fail: its failure names the kind, the label, the
action and the instance. A defect goes past it. Where the commands of a step are made of texts,
nothing that kubectl does or prints is a defect, except for one thing: it succeeds and prints an
object of another shape than the action of the step expects.
-/

namespace TenantBroker.Pipeline

open Cluster (Call Cause Failure Handler Kind Program)
open Cluster.Program
open Kubectl (Client Ends HasRecord Lists Outcome Prints Ran Run Session)
open Tenant (Readable)

variable {σ : Type} {handler : Handler σ} {client : Client} {step : Step} {instanceId : String}
  {kind : Kind} {ns : Json} {fields : List (String × Json)} {items : List Json} {item : Json}

/-! ## What a step expects to be printed -/

/-- A listed item that can be taken away: it can be read, and its name is a text if it counts as
present. -/
def Named (item : Json) : Prop :=
  ∃ inner, item.metadata = .ok (.obj inner) ∧ ∀ name, Json.field? inner "name" = some name →
    name.isTruthy = true → ∃ text, name = .str text

/-- An object that was printed has the shape that an action expects. The metadata of what was
created are a record, if there are any. The items of a listing are a list of such as can be taken
away, if they count as present. What is printed about a deletion is not read. -/
def Fits : StepAction → List (String × Json) → Prop
  | .create, fields => HasRecord fields
  | .delete, _ => True
  | .deleteAll, fields => ∀ value, Json.field? fields "items" = some value →
      value.isTruthy = true → ∃ items, value = .arr items ∧ ∀ item ∈ items, Named item

/-- The items of a listing of the expected shape are listed. -/
theorem Fits.listed (h : Fits .deleteAll fields) :
    ∃ items, Client.listedItems (.obj fields) = .ok items ∧ ∀ item ∈ items, Named item := by
  simp only [Client.listedItems, Json.get, Json.getD, Json.fields, Except.map]
  cases hvalue : Json.field? fields "items" with
  | none => exact ⟨[], rfl, List.forall_mem_nil _⟩
  | some value =>
    by_cases hpresent : value.isTruthy = true
    · obtain ⟨items, rfl, hitems⟩ := h value hvalue hpresent
      exact ⟨items, rfl, hitems⟩
    · refine ⟨[], ?_, List.forall_mem_nil _⟩
      cases value <;> simp_all [Json.isTruthy]

/-- Items that are no list cannot be listed, or a text comes first among what is listed. -/
theorem listedItems_of_no_list {value : Json} (hvalue : Json.field? fields "items" = some value)
    (hpresent : value.isTruthy = true) (hlist : ∀ items, value ≠ .arr items) :
    (∃ d, Client.listedItems (.obj fields) = .error (.defect d)) ∨
      ∃ text rest, Client.listedItems (.obj fields) = .ok (.str text :: rest) := by
  simp only [Client.listedItems, Json.get, Json.getD, Json.fields, Except.map, hvalue,
    Option.getD_some]
  cases value with
  | null => cases hpresent
  | bool truth => exact .inl ⟨_, if_pos hpresent⟩
  | num number => exact .inl ⟨_, if_pos hpresent⟩
  | str text =>
    cases htext : text.toList with
    | nil => simp [Json.isTruthy, String.toList_eq_nil_iff.mp htext] at hpresent
    | cons c rest =>
      refine .inr ⟨String.ofList [c], rest.map fun c ↦ .str (String.ofList [c]), ?_⟩
      simp only [htext, List.map_cons]
  | arr items => exact absurd rfl (hlist items)
  | obj members =>
    cases members with
    | nil => cases hpresent
    | cons member rest => exact .inr ⟨_, _, rfl⟩

/-! ## Taking listed items away -/

/-- What can be taken away is named by nothing that counts as present, or by a text. -/
theorem Named.listedName (h : Named item) :
    ∃ name, listedName item = .ok name ∧ (name.isTruthy = true → ∃ text, name = .str text) := by
  obtain ⟨inner, hinner, hname⟩ := h
  refine ⟨(Json.field? inner "name").getD .null, ?_, fun hpresent ↦ ?_⟩
  · simp only [Pipeline.listedName, hinner]
    rfl
  · cases hfield : Json.field? inner "name" with
    | none =>
      rw [hfield] at hpresent
      cases hpresent
    | some name =>
      rw [hfield] at hpresent
      exact hname name hfield hpresent

/-- What cannot be read has no name. -/
theorem listedName_of_unreadable (h : ¬ Readable item) : ∃ d, listedName item = .error d := by
  cases hmetadata : item.metadata with
  | error d => exact ⟨d, by simp only [listedName, hmetadata]; rfl⟩
  | ok metadata =>
    cases metadata with
    | obj inner => exact absurd ⟨inner, hmetadata⟩ h
    | _ => exact ⟨_, by simp only [listedName, hmetadata]; rfl⟩

/-- Taking away what has names of texts is no defect if no deletion by such a name is. The induction
is on the items. -/
theorem deleteItems_no_defect
    (hdelete : ∀ name s d, (handler (.delete kind (.str name) ns) s).1 ≠ .error (.defect d))
    (hitems : ∀ item ∈ items, Named item) (s : σ) (d : Defect) :
    ((deleteItems kind ns items).run handler s).1 ≠ .error (.defect d) := by
  induction items generalizing s with
  | nil => nofun
  | cons item rest ih =>
    obtain ⟨hitem, hrest⟩ := List.forall_mem_cons.mp hitems
    obtain ⟨name, hname, htext⟩ := hitem.listedName
    simp only [deleteItems, hname]
    split
    · next hpresent =>
      obtain ⟨text, rfl⟩ := htext hpresent
      rw [run_call]
      cases hreply : (handler (.delete kind (.str text) ns) s).1 with
      | ok reply =>
        rw [run_map, ne_eq, map_eq_error_iff]
        exact ih hrest _
      | error f =>
        simp only
        split
        · exact ih hrest _
        · intro heq
          obtain rfl := Except.error.inj heq
          exact hdelete text s d hreply
    · exact ih hrest s

/-- Where one of the items cannot be read, they are not all taken away. -/
theorem deleteItems_ne_ok (hitem : item ∈ items) (hunreadable : ¬ Readable item) (s : σ)
    (names : List Json) : ((deleteItems kind ns items).run handler s).1 ≠ .ok names := by
  induction items generalizing s names with
  | nil => cases hitem
  | cons first rest ih =>
    rcases List.mem_cons.mp hitem with rfl | hrest
    · obtain ⟨d, hd⟩ := listedName_of_unreadable hunreadable
      simp only [deleteItems, hd]
      rintro ⟨⟩
    · unfold deleteItems
      cases listedName first with
      | error d => rintro ⟨⟩
      | ok name =>
        simp only
        split
        · rw [run_call]
          cases (handler (.delete kind name ns) s).1 with
          | ok reply =>
            rw [run_map, ne_eq, map_eq_ok_iff]
            rintro ⟨others, hothers, -⟩
            exact ih hrest _ _ hothers
          | error f =>
            simp only
            split
            · exact ih hrest _ _
            · rintro ⟨⟩
        · exact ih hrest s names

/-! ## Steps -/

/-- The call that a step begins with. -/
def Step.firstCall? (step : Step) : Option Call :=
  match step.action with
  | .create => step.manifest.map (Call.create step.kind)
  | .delete => some (.delete step.kind step.name step.ns)
  | .deleteAll => some (.list step.kind step.ns)

/-- A step has a label, and the command of its first call is made of texts. -/
structure Step.Worded (step : Step) : Prop where
  label : ∃ label, step.label = .ok label
  call : ∃ c, step.firstCall? = some c ∧ Kubectl.Worded c

/-- A step comes to an outcome, or to a failure that names its kind, its label, the instance and its
action. -/
inductive Contained (instanceId : String) (step : Step) :
    Except PipelineFailure StepOutcome → Prop
  | done (outcome : StepOutcome) : Contained instanceId step (.ok outcome)
  | failed (label : Json) (cause : Cause) (hlabel : step.label = .ok label) :
      Contained instanceId step
        (.error (.step ⟨step.kind.name, label, instanceId, step.action, cause⟩))

/-- The defect that goes past a step. -/
def escaped? {α : Type} : Except PipelineFailure α → Option Defect
  | .error (.defect d) => some d
  | _ => none

/-- What a step comes to, by the outcome of the last run of its first call. A defect goes past it
only after an object of another shape was printed. It always does so if what was created has
metadata that are no record, and if the items of a listing are no list. Where an item of a list
cannot be read, the step has no outcome. -/
structure Containment (instanceId : String) (step : Step) (last : Outcome)
    (answer : Except PipelineFailure StepOutcome) : Prop where
  settled : Contained instanceId step answer ∨ (escaped? answer).isSome
  contained : (∀ fields, Prints last fields → Fits step.action fields) →
    Contained instanceId step answer
  recordless : step.action = .create → ∀ fields, Prints last fields → ¬ HasRecord fields →
    (escaped? answer).isSome
  unlisted : step.action = .deleteAll → ∀ fields value, Prints last fields →
    Json.field? fields "items" = some value → value.isTruthy = true →
    (∀ items, value ≠ .arr items) → (escaped? answer).isSome
  unreadable : step.action = .deleteAll → ∀ fields items item, Prints last fields →
    Json.field? fields "items" = some (.arr items) → item ∈ items → ¬ Readable item →
    ∀ outcome, answer ≠ .ok outcome

/-- The name of what was created can be read if its metadata are a record. -/
theorem createdName_of_record (hrecord : HasRecord fields) {label : Json}
    (hlabel : step.label = .ok label) : ∃ name, createdName step (.obj fields) = .ok name := by
  obtain ⟨inner, hinner⟩ : Readable (.obj fields) := by
    simp only [Readable, Json.metadata, Json.get, Json.getD, Json.fields, Except.map]
    cases hmetadata : Json.field? fields "metadata" with
    | none => exact ⟨[], rfl⟩
    | some metadata =>
      obtain ⟨inner, rfl⟩ := hrecord metadata hmetadata
      cases inner with
      | nil => exact ⟨[], rfl⟩
      | cons f rest => exact ⟨f :: rest, rfl⟩
  simp only [createdName, hinner, Json.get, Json.getD, Json.fields, Except.map, Bind.bind,
    Except.bind]
  split
  · exact ⟨_, rfl⟩
  · exact ⟨label, hlabel⟩

variable {last : Outcome} {s : σ}

/-- A step comes to an outcome or to a failure of its own, or a defect goes past it. -/
theorem runStep_settled (hlabel : ∃ label, step.label = .ok label) :
    Contained instanceId step ((runStep instanceId step).run handler s).1 ∨
      (escaped? ((runStep instanceId step).run handler s).1).isSome := by
  obtain ⟨label, hlabel⟩ := hlabel
  rw [runStep, run_map]
  cases ((runAction step).run handler s).1 with
  | ok outcome => exact .inl (.done outcome)
  | error f =>
    cases f with
    | defect d => exact .inr rfl
    | cause why =>
      rw [mapError_error, failureOf, hlabel]
      exact .inl (.failed label why hlabel)

/-- A defect goes past a step exactly if its action comes to one. -/
theorem escaped_iff (hlabel : ∃ label, step.label = .ok label) :
    (escaped? ((runStep instanceId step).run handler s).1).isSome ↔
      ∃ d, ((runAction step).run handler s).1 = .error (.defect d) := by
  obtain ⟨label, hlabel⟩ := hlabel
  rw [runStep, run_map]
  cases ((runAction step).run handler s).1 with
  | ok outcome => simp [escaped?]
  | error f =>
    cases f with
    | defect d => simp [escaped?, failureOf]
    | cause why => simp [escaped?, failureOf, hlabel]

/-- A step whose action comes to no defect comes to an outcome or to a failure of its own. -/
theorem contained_of_no_defect (hlabel : ∃ label, step.label = .ok label)
    (h : ∀ d, ((runAction step).run handler s).1 ≠ .error (.defect d)) :
    Contained instanceId step ((runStep instanceId step).run handler s).1 := by
  refine (runStep_settled hlabel).resolve_right fun hescaped ↦ ?_
  obtain ⟨d, hd⟩ := (escaped_iff hlabel).mp hescaped
  exact h d hd

/-- A create comes to a defect exactly if the metadata of what was created are no record. -/
theorem runCreate_defect {manifest : Json} (hmanifest : step.manifest = some manifest)
    (hlabel : ∃ label, step.label = .ok label)
    (hends : Ends last (.create step.kind manifest) (handler (.create step.kind manifest) s).1) :
    (∃ d, ((runCreate step).run handler s).1 = .error (.defect d)) ↔
      ∃ fields, Prints last fields ∧ ¬ HasRecord fields := by
  obtain ⟨label, hlabel⟩ := hlabel
  simp only [runCreate, hmanifest, run_call]
  cases hreply : (handler (.create step.kind manifest) s).1 with
  | ok created =>
    rw [hreply] at hends
    obtain ⟨hprints, hrecord⟩ := hends
    obtain ⟨name, hname⟩ := createdName_of_record hrecord hlabel
    simp only [hname, run_done]
    refine iff_of_false nofun ?_
    rintro ⟨fields', hprints', hnot⟩
    exact hnot (hprints.unique hprints' ▸ hrecord)
  | error f =>
    rw [hreply] at hends
    cases hends with
    | failed why hprints =>
      refine iff_of_false ?_ fun ⟨fields, h, _⟩ ↦ hprints fields h
      simp only
      split
      · simp [hlabel]
      · simp
    | @misshapen _ d fields hprints hnot =>
      refine iff_of_true ⟨d, rfl⟩ ⟨fields, hprints, fun hrecord ↦ ?_⟩
      exact hnot ⟨fields, hprints, hrecord⟩

/-- A delete comes to no defect. -/
theorem runDelete_no_defect (hname : step.name ≠ .null)
    (hends : Ends last (.delete step.kind step.name step.ns)
      (handler (.delete step.kind step.name step.ns) s).1) (d : Defect) :
    ((runDelete step).run handler s).1 ≠ .error (.defect d) := by
  have hreply := hends.delete_ne_defect d
  unfold runDelete
  split
  · next hnull => exact absurd hnull hname
  · rw [run_call]
    cases hdelete : (handler (.delete step.kind step.name step.ns) s).1 with
    | ok reply => nofun
    | error f =>
      simp only
      split
      · nofun
      · intro heq
        obtain rfl := Except.error.inj heq
        exact hreply hdelete

section DeleteAll

variable (hends : Ends last (.list step.kind step.ns) (handler (.list step.kind step.ns) s).1)
include hends

/-- Deleting all of a kind comes to a defect only if the listing has another shape. -/
theorem runDeleteAll_no_defect
    (hdelete : ∀ name s d, (handler (.delete step.kind (.str name) step.ns) s).1 ≠
      .error (.defect d))
    (hfits : ∀ fields, Prints last fields → Fits .deleteAll fields) (d : Defect) :
    ((runDeleteAll step).run handler s).1 ≠ .error (.defect d) := by
  unfold runDeleteAll
  rw [run_call]
  cases hreply : (handler (.list step.kind step.ns) s).1 with
  | ok items =>
    rw [hreply] at hends
    obtain ⟨fields, hprints, hlisted⟩ := hends.lists
    obtain ⟨items', hlisted', hitems⟩ := (hfits fields hprints).listed
    obtain rfl := Except.ok.inj (hlisted.symm.trans hlisted')
    rw [run_map, ne_eq, map_eq_error_iff]
    exact deleteItems_no_defect hdelete hitems _ d
  | error f =>
    rw [hreply] at hends
    cases hends with
    | failed why hprints =>
      simp only
      split <;> nofun
    | @misshapen _ d fields hprints hnot =>
      obtain ⟨items, hlisted, -⟩ := (hfits fields hprints).listed
      exact absurd ⟨items, fields, hprints, hlisted⟩ hnot

/-- Deleting all of a kind comes to a defect if the items of the listing are no list. -/
theorem runDeleteAll_defect {value : Json} (hprints : Prints last fields)
    (hvalue : Json.field? fields "items" = some value) (hpresent : value.isTruthy = true)
    (hlist : ∀ items, value ≠ .arr items) :
    ∃ d, ((runDeleteAll step).run handler s).1 = .error (.defect d) := by
  unfold runDeleteAll
  rw [run_call]
  cases hreply : (handler (.list step.kind step.ns) s).1 with
  | ok items =>
    rw [hreply] at hends
    obtain ⟨fields', hprints', hlisted⟩ := hends.lists
    obtain rfl := hprints.unique hprints'
    rcases listedItems_of_no_list hvalue hpresent hlist with ⟨d, hd⟩ | ⟨text, rest, hfirst⟩
    · cases hlisted.symm.trans hd
    · obtain rfl := Except.ok.inj (hlisted.symm.trans hfirst)
      exact ⟨.notRecord, rfl⟩
  | error f =>
    rw [hreply] at hends
    cases hends with
    | failed why hnone => exact absurd hprints (hnone fields)
    | misshapen d h hnot => exact ⟨d, rfl⟩

/-- Deleting all of a kind has no outcome if one of the items of the listing cannot be read. -/
theorem runDeleteAll_ne_ok (hprints : Prints last fields)
    (hitems : Json.field? fields "items" = some (.arr items)) (hitem : item ∈ items)
    (hunreadable : ¬ Readable item) (outcome : StepOutcome) :
    ((runDeleteAll step).run handler s).1 ≠ .ok outcome := by
  have hlisted : Client.listedItems (.obj fields) = .ok items := by
    simp only [Client.listedItems, Json.get, Json.getD, Json.fields, Except.map, hitems,
      Option.getD_some]
  unfold runDeleteAll
  rw [run_call]
  cases hreply : (handler (.list step.kind step.ns) s).1 with
  | ok others =>
    rw [hreply] at hends
    obtain rfl := hends.lists.unique ⟨fields, hprints, hlisted⟩
    rw [run_map, ne_eq, map_eq_ok_iff]
    rintro ⟨names, hnames, -⟩
    exact deleteItems_ne_ok hitem hunreadable _ names hnames
  | error f =>
    rw [hreply] at hends
    cases hends with
    | failed why hnone => exact absurd hprints (hnone fields)
    | misshapen d h hnot => rintro ⟨⟩

end DeleteAll

/-! ## What a step comes to -/

section Containment

variable (hlabel : ∃ label, step.label = .ok label)
include hlabel

/-- What comes of a create is contained, up to what it printed. -/
theorem containment_create (haction : step.action = .create) {manifest : Json}
    (hmanifest : step.manifest = some manifest)
    (hends : Ends last (.create step.kind manifest) (handler (.create step.kind manifest) s).1) :
    Containment instanceId step last ((runStep instanceId step).run handler s).1 := by
  have hdefect : (∃ d, ((runAction step).run handler s).1 = .error (.defect d)) ↔
      ∃ fields, Prints last fields ∧ ¬ HasRecord fields := by
    simpa only [runAction, haction] using runCreate_defect hmanifest hlabel hends
  refine ⟨runStep_settled hlabel, fun hfits ↦ ?_, fun _ fields hprints hnot ↦ ?_, ?_, ?_⟩
  · rw [haction] at hfits
    refine contained_of_no_defect hlabel fun d hd ↦ ?_
    obtain ⟨fields, hprints, hnot⟩ := hdefect.mp ⟨d, hd⟩
    exact hnot (hfits fields hprints)
  · exact (escaped_iff hlabel).mpr (hdefect.mpr ⟨fields, hprints, hnot⟩)
  · simp [haction]
  · simp [haction]

/-- What comes of a delete is contained. -/
theorem containment_delete (haction : step.action = .delete) (hname : step.name ≠ .null)
    (hends : Ends last (.delete step.kind step.name step.ns)
      (handler (.delete step.kind step.name step.ns) s).1) :
    Containment instanceId step last ((runStep instanceId step).run handler s).1 := by
  have hno (d : Defect) : ((runAction step).run handler s).1 ≠ .error (.defect d) := by
    simpa only [runAction, haction] using runDelete_no_defect hname hends d
  refine ⟨runStep_settled hlabel, fun _ ↦ contained_of_no_defect hlabel hno, ?_, ?_, ?_⟩
  all_goals simp [haction]

/-- What comes of deleting all of a kind is contained, up to what was listed. -/
theorem containment_deleteAll (haction : step.action = .deleteAll)
    (hends : Ends last (.list step.kind step.ns) (handler (.list step.kind step.ns) s).1)
    (hdelete : ∀ name s d, (handler (.delete step.kind (.str name) step.ns) s).1 ≠
      .error (.defect d)) :
    Containment instanceId step last ((runStep instanceId step).run handler s).1 := by
  have hrun : runAction step = runDeleteAll step := by simp only [runAction, haction]
  refine ⟨runStep_settled hlabel, fun hfits ↦ ?_, ?_,
    fun _ fields value hprints hvalue hpresent hlist ↦ ?_,
    fun _ fields items item hprints hitems hitem hunreadable outcome ↦ ?_⟩
  · rw [haction] at hfits
    refine contained_of_no_defect hlabel ?_
    rw [hrun]
    exact runDeleteAll_no_defect hends hdelete hfits
  · simp [haction]
  · rw [escaped_iff hlabel, hrun]
    exact runDeleteAll_defect hends hprints hvalue hpresent hlist
  · rw [runStep, run_map, hrun, ne_eq, mapError_eq_ok_iff]
    exact runDeleteAll_ne_ok hends hprints hitems hitem hunreadable outcome

end Containment

/-- What comes of a step is contained, up to what was printed for its first call. -/
theorem Step.Worded.containment {limit : String} (hlimit : client.requestTimeout = .ok limit)
    (h : step.Worded) (instanceId : String) (s : Session) :
    ∃ (c : Call) (r : Run) (earlier : List Outcome) (last : Outcome),
      step.firstCall? = some c ∧
      Ran s ((earlier ++ [last]).map (r, ·)) (client.handle c s).2 ∧
      Containment instanceId step last ((runStep instanceId step).run client.handle s).1 := by
  obtain ⟨c, hc, hworded⟩ := h.call
  obtain ⟨r, earlier, last, hran, hends⟩ := Kubectl.exists_ends hlimit hworded s
  refine ⟨c, r, earlier, last, hc, hran, ?_⟩
  unfold Step.firstCall? at hc
  cases haction : step.action with
  | create =>
    simp only [haction] at hc
    obtain ⟨manifest, hmanifest, rfl⟩ := Option.map_eq_some_iff.mp hc
    exact containment_create h.label haction hmanifest hends
  | delete =>
    simp only [haction] at hc
    obtain rfl := Option.some.inj hc
    obtain ⟨⟨name, hname⟩, -⟩ := hworded
    exact containment_delete h.label haction (by simp [hname]) hends
  | deleteAll =>
    simp only [haction] at hc
    obtain rfl := Option.some.inj hc
    refine containment_deleteAll h.label haction hends fun name s d ↦ ?_
    have hdeletion : Kubectl.Worded (.delete step.kind (.str name) step.ns) :=
      ⟨⟨name, rfl⟩, hworded.2⟩
    obtain ⟨_, _, _, _, hdeleted⟩ := Kubectl.exists_ends hlimit hdeletion s
    exact hdeleted.delete_ne_defect d

end TenantBroker.Pipeline
