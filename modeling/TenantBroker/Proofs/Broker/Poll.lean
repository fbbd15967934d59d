import TenantBroker.Proofs.Broker.Request
import TenantBroker.Proofs.Kubectl.Exchange
import TenantBroker.Proofs.Tenant.Record
import TenantBroker.Proofs.Text.Case

/-!
# What a status poll runs

Behind kubectl a status poll is one exchange. A removal asks for the namespace, everything else for
the listing of the tenant's development environments, and the last run decides what is reported: a
state is reported only where the cluster has answered, and that a record is missing only where the
cluster has said so.
-/

namespace TenantBroker.Broker

open Cluster (Call Handler Kind)
open Cluster.Program
open Kubectl (Answers Client Exchange FindsNothing IsCommand Lists Prints Ran failedCommand?)
open Tenant (Readable Record ShowsPhase namespaceFor)

/-! ## What a listing shows -/

/-- The run ended well and printed an object whose items are a list that begins with a record. -/
def ShowsFirst (o : Kubectl.Outcome) (item : Json) : Prop :=
  ∃ fields rest, Prints o fields ∧ Json.field? fields "items" = some (.arr (item :: rest))

/-- The run ended well and printed an object whose items are missing, or do not count as present. -/
def ShowsNone (o : Kubectl.Outcome) : Prop :=
  ∃ fields, Prints o fields ∧ ∀ items, Json.field? fields "items" = some items → ¬ items.isTruthy

/-- The record has a status with the phase of a finished deployment, in any case of its letters. -/
def IsFinished (item : Json) : Prop := ∃ phase, ShowsPhase item phase ∧ phase.toLower = "complete"

variable {o : Kubectl.Outcome} {r : Kubectl.Run} {fields : List (String × Json)} {item : Json}
  {rest : List Json}

/-- A listing has no items exactly if they are missing or do not count as present. -/
theorem listedItems_eq_nil_iff : Client.listedItems (.obj fields) = .ok [] ↔
    ∀ items, Json.field? fields "items" = some items → ¬ items.isTruthy := by
  simp only [Client.listedItems, Json.get, Json.getD, Json.fields, Except.map]
  cases Json.field? fields "items" with
  | none => simp
  | some items => cases items <;> simp [Json.isTruthy]

/-- A listing whose first item can be read has a list of items. -/
theorem field?_of_listedItems (h : Client.listedItems (.obj fields) = .ok (item :: rest))
    (hitem : Readable item) : Json.field? fields "items" = some (.arr (item :: rest)) := by
  obtain ⟨inner, rfl⟩ := hitem.exists_fields
  simp only [Client.listedItems, Json.get, Json.getD, Json.fields, Except.map] at h
  cases hitems : Json.field? fields "items" with
  | none => simp [hitems] at h
  | some items =>
    rw [hitems] at h
    -- The names of a record and the characters of a text are texts, which cannot be read.
    cases items with
    | arr items => exact congrArg (some ∘ Json.arr) (Except.ok.inj h)
    | obj members => cases members <;> simp at h
    | str text => cases htext : text.toList <;> simp [htext] at h
    | null => simp at h
    | bool value => cases value <;> simp at h
    | num value => cases hvalue : value.isNonzero <;> simp [hvalue] at h

/-- A run shows no items exactly if it lists none. -/
theorem showsNone_iff : ShowsNone o ↔ Lists o [] :=
  exists_congr fun _ ↦ and_congr_right fun _ ↦ listedItems_eq_nil_iff.symm

/-- A run that shows a first item lists it first. -/
theorem ShowsFirst.lists (h : ShowsFirst o item) : ∃ rest, Lists o (item :: rest) := by
  obtain ⟨fields, rest, hprints, hitems⟩ := h
  refine ⟨rest, fields, hprints, ?_⟩
  simp only [Client.listedItems, Json.get, Json.getD, Json.fields, Except.map, hitems,
    Option.getD_some]

/-- A run does not show both a first item and none. -/
theorem ShowsFirst.not_none (h : ShowsFirst o item) : ¬ ShowsNone o := by
  intro hnone
  obtain ⟨rest, hlists⟩ := h.lists
  cases hlists.unique (showsNone_iff.mp hnone)

/-- A run shows one first item at most. -/
theorem ShowsFirst.unique {other : Json} (h : ShowsFirst o item) (h' : ShowsFirst o other) :
    item = other := by
  obtain ⟨rest, hlists⟩ := h.lists
  obtain ⟨rest', hlists'⟩ := h'.lists
  exact (List.cons.inj (hlists.unique hlists')).1

/-- Where an object was printed no command has failed. -/
theorem not_prints_of_failed {f : Cluster.CommandFailure} (hf : failedCommand? r o = some f)
    (fields : List (String × Json)) : ¬ Prints o fields := by
  intro h
  rw [h.not_failed r] at hf
  cases hf

/-- Where an object was printed it was not so that nothing was found. -/
theorem not_findsNothing (h : Prints o fields) : ¬ FindsNothing r o := by
  rintro ⟨f, hf, -⟩
  exact not_prints_of_failed hf fields h

/-- A command that failed found nothing exactly if its category says so. -/
theorem findsNothing_iff {f : Cluster.CommandFailure} (hf : failedCommand? r o = some f) :
    FindsNothing r o ↔ f.category = .notFound := by
  simp [FindsNothing, hf]

/-- A command that failed counts as not found exactly if its category says so. -/
theorem isNotFound_command (f : Cluster.CommandFailure) :
    Cluster.Failure.isNotFound (.cause (.command f)) = true ↔ f.category = .notFound := by
  simp [Cluster.Failure.isNotFound, Cluster.Failure.category?, Cluster.Cause.category?]

/-! ## The record of an instance -/

/-- How the record of an instance is found, or is not, by the outcome of the last run. -/
inductive Sought (instanceId : String) (r : Kubectl.Run) (o : Kubectl.Outcome) :
    Except Failure Record → Prop
  | found {item : Json} {record : Record} (hshows : ShowsFirst o item) (hreadable : Readable item)
      (hphase : ∀ phase, record.phase? = some phase ↔ ShowsPhase item phase) :
      Sought instanceId r o (.ok record)
  | missing (h : FindsNothing r o ∨ ShowsNone o) :
      Sought instanceId r o (.error (.missing instanceId))
  | failed (f : Cluster.CommandFailure) (summary : String) (hf : failedCommand? r o = some f)
      (hcategory : f.category ≠ .notFound) :
      Sought instanceId r o (.error (.cluster (.command { f with summary })))
  | unusable {why : Failure} (hwhy : why ≠ .missing instanceId) (hnone : failedCommand? r o = none)
      (hempty : ¬ ShowsNone o) (hunreadable : ∀ item, ShowsFirst o item → ¬ Readable item) :
      Sought instanceId r o (.error why)

/-- What a listing says of the record of an instance. -/
def soughtRecord (instanceId : String) : Except Cluster.Failure (List Json) → Except Failure Record
  | .ok [] => .error (.missing instanceId)
  | .ok (item :: _) => (Record.ofJson item).mapError .defect
  | .error f => .error (if f.isNotFound then .missing instanceId else .ofCluster f)

/-- The record of an instance is sought by one listing. -/
theorem run_requireRecord {σ : Type} (handler : Handler σ) (instanceId ns : String) (s : σ) :
    (requireRecord instanceId ns).run handler s =
      (soughtRecord instanceId (handler (.list Kind.developments (.str ns)) s).1,
        (handler (.list Kind.developments (.str ns)) s).2) := by
  unfold requireRecord andThen
  rw [run_bind]
  simp only [findRecord, run_call]
  cases (handler (.list Kind.developments (.str ns)) s).1 with
  | error f =>
    simp only [soughtRecord]
    cases f.isNotFound <;> rfl
  | ok items =>
    cases items with
    | nil => rfl
    | cons item rest =>
      simp only [soughtRecord]
      cases Record.ofJson item <;> rfl

/-- A listing that was answered decides how the record is sought. -/
theorem sought_of_answers {kind : Kind} {ns : Json} {reply : Except Cluster.Failure (List Json)}
    (h : Answers r o (.list kind ns) reply) (instanceId : String) :
    Sought instanceId r o (soughtRecord instanceId reply) := by
  cases h with
  | failed f summary hf =>
    have hmissing := isNotFound_command { f with summary }
    by_cases hcategory : f.category = .notFound
    · simp only [soughtRecord, hmissing.mpr hcategory, if_true]
      exact .missing (.inl ((findsNothing_iff hf).mpr hcategory))
    · simp only [soughtRecord, if_neg (mt hmissing.mp hcategory)]
      exact .failed f summary hf hcategory
  | @unusable _ f hnone hcategory hnot =>
    have hother : f.isNotFound = false := by
      simp only [Cluster.Failure.isNotFound, hcategory, reduceCtorEq, decide_false]
    simp only [soughtRecord, hother]
    refine .unusable ?_ hnone (fun hempty ↦ ?_) fun item hshows _ ↦ ?_
    · cases f <;> rintro ⟨⟩
    · exact hnot ⟨[], showsNone_iff.mp hempty⟩
    · obtain ⟨rest, hlists⟩ := hshows.lists
      exact hnot ⟨item :: rest, hlists⟩
  | @listed _ _ items hlists =>
    cases items with
    | nil => exact .missing (.inr (showsNone_iff.mpr hlists))
    | cons item rest =>
      obtain ⟨fields, hprints, hitems⟩ := id hlists
      by_cases hreadable : Readable item
      · obtain ⟨members, rfl⟩ := hreadable.exists_fields
        obtain ⟨record, hread, hstatus⟩ := Record.ofJson_ok hreadable
        simp only [soughtRecord, hread, mapError_ok]
        exact .found ⟨fields, rest, hprints, field?_of_listedItems hitems hreadable⟩ hreadable
          fun phase ↦ Record.phase?_eq_some_iff hstatus
      · obtain ⟨d, hread⟩ := Record.ofJson_error hreadable
        simp only [soughtRecord, hread, mapError_error]
        refine .unusable ?_ (hprints.not_failed r) (fun hempty ↦ ?_) fun other hshows hother ↦ ?_
        · rintro ⟨⟩
        · cases hlists.unique (showsNone_iff.mp hempty)
        · obtain ⟨rest', hlists'⟩ := hshows.lists
          obtain ⟨rfl, -⟩ := List.cons.inj (hlists.unique hlists')
          exact hreadable hother

/-- A record counts as complete exactly if it is that of a finished deployment. -/
theorem isComplete_iff {record : Record}
    (h : ∀ phase, record.phase? = some phase ↔ ShowsPhase item phase) :
    isComplete record = true ↔ IsFinished item := by
  have hword (phase : String) : Text.lower phase = completePhase ↔ phase.toLower = "complete" :=
    Text.lower_eq_iff (by decide) phase
  have hempty : Text.lower "" ≠ completePhase := by decide
  simp only [isComplete, decide_eq_true_eq, IsFinished, ← h]
  cases record.phase? with
  | none => simp [hempty]
  | some phase => simp [hword]

/-! ## What a poll reports -/

/-- The words of the command that a poll runs: it asks for the namespace after a removal, and for
the records of the tenant's development environments otherwise. -/
def pollWords (program limit ns operation : String) : List String :=
  if operation = removeOperation then [program, limit, "get", "namespaces", ns, "-o", "json"]
  else [program, limit, "--namespace", ns, "get", "rhpamdevs.v1alpha1.rhpam.integreatly.org", "-o",
    "json"]

/-- The answer is a status with this state. -/
def Reports (answer : Except Failure Status) (state : OperationState) : Prop :=
  ∃ status, answer = .ok status ∧ status.state = state

/-- A status is reported with its state. -/
@[simp] theorem reports_ok {status : Status} {state : OperationState} :
    Reports (.ok status) state ↔ status.state = state := by
  simp [Reports]

/-- A failure reports no state. -/
@[simp] theorem reports_error {f : Failure} {state : OperationState} :
    Reports (.error f) state ↔ False := by
  simp [Reports]

/-- What a poll comes to, by the outcome of its last run. The four ways to end that say something
about the instance have their exact conditions; all else is raised. -/
structure Verdict (instanceId operation : String) (r : Kubectl.Run) (o : Kubectl.Outcome)
    (answer : Except Failure Status) : Prop where
  succeeded : Reports answer .succeeded ↔ operation = removeOperation ∧ FindsNothing r o ∨
    operation = deployOperation ∧ ∃ item, ShowsFirst o item ∧ Readable item ∧ IsFinished item
  inProgress : Reports answer .inProgress ↔
    operation = removeOperation ∧ (∃ fields, Prints o fields) ∨
    operation = deployOperation ∧ ∃ item, ShowsFirst o item ∧ Readable item ∧ ¬ IsFinished item
  failed : Reports answer .failed ↔ operation ≠ removeOperation ∧ operation ≠ deployOperation ∧
    ∃ item, ShowsFirst o item ∧ Readable item
  missing : answer = .error (.missing instanceId) ↔
    operation ≠ removeOperation ∧ (FindsNothing r o ∨ ShowsNone o)
  raised : ∀ f, failedCommand? r o = some f → f.category ≠ .notFound →
    ∃ summary, answer = .error (.cluster (.command { f with summary }))
  unusable : failedCommand? r o = none → (∀ fields, ¬ Prints o fields) → ∃ f, answer = .error f

/-- What the namespace says of the removal of an instance. -/
def removalAnswer : Except Cluster.Failure Json → Except Failure Status
  | .ok _ => .ok .deleting
  | .error f => if f.isNotFound then .ok .deleted else .error (.ofCluster f)

/-- A poll after a removal is decided by the namespace. -/
theorem verdict_removal {kind : Kind} {name ns : Json} {reply : Except Cluster.Failure Json}
    (h : Answers r o (.get kind name ns) reply) (instanceId : String) :
    Verdict instanceId removeOperation r o (removalAnswer reply) := by
  have hother : removeOperation ≠ deployOperation := by decide
  cases h with
  | @found _ _ _ fields hprints =>
    have hfound : ¬ FindsNothing r o := not_findsNothing hprints
    have hexists : ∃ fields, Prints o fields := ⟨fields, hprints⟩
    simp only [removalAnswer]
    exact {
      succeeded := by simp [Status.deleting, hother, hfound]
      inProgress := by simp [Status.deleting, hexists]
      failed := by simp [Status.deleting]
      missing := by simp
      raised := by simp [hprints.not_failed r]
      unusable := fun _ hnone ↦ absurd hprints (hnone fields) }
  | failed f summary hf =>
    have hprints : ¬ ∃ fields, Prints o fields :=
      fun ⟨fields, h⟩ ↦ not_prints_of_failed hf fields h
    have hmissing := isNotFound_command { f with summary }
    have hnothing := findsNothing_iff hf
    by_cases hcategory : f.category = .notFound
    · simp only [removalAnswer, hmissing.mpr hcategory, if_true]
      exact {
        succeeded := by simp [Status.deleted, hnothing, hcategory]
        inProgress := by simp [Status.deleted, hprints, hother]
        failed := by simp [Status.deleted]
        missing := by simp
        raised := by simp [hf, hcategory]
        unusable := by simp [hf] }
    · simp only [removalAnswer, if_neg (mt hmissing.mp hcategory)]
      exact {
        succeeded := by simp [hnothing, hcategory, hother]
        inProgress := by simp [hprints, hother]
        failed := by simp
        missing := by simp [Failure.ofCluster]
        raised := by
          simp only [hf, Option.some.injEq, forall_eq']
          exact fun _ ↦ ⟨summary, rfl⟩
        unusable := by simp [hf] }
  | @unusable _ f hnone hcategory hnot =>
    have hnothing : ¬ FindsNothing r o := by simp [FindsNothing, hnone]
    have hmissing : f.isNotFound = false := by
      simp only [Cluster.Failure.isNotFound, hcategory, reduceCtorEq, decide_false]
    simp only [removalAnswer, hmissing]
    exact {
      succeeded := by simp [hnothing, hother]
      inProgress := by simpa [hother, Kubectl.Serves] using hnot
      failed := by simp
      missing := by cases f <;> simp [Failure.ofCluster]
      raised := by simp [hnone]
      unusable := fun _ _ ↦ ⟨_, rfl⟩ }

/-- A poll that seeks a record and fails has no first record that can be read. -/
private theorem verdict_error {instanceId operation : String} {why : Failure}
    (hoperation : operation ≠ removeOperation)
    (hunreadable : ∀ item, ShowsFirst o item → ¬ Readable item)
    (hmissing : why = .missing instanceId ↔ FindsNothing r o ∨ ShowsNone o)
    (hraised : ∀ f, failedCommand? r o = some f → f.category ≠ .notFound →
      ∃ summary, why = .cluster (.command { f with summary })) :
    Verdict instanceId operation r o (.error why) := by
  have hnone (P : Json → Prop) : ¬ ∃ item, ShowsFirst o item ∧ Readable item ∧ P item := by
    rintro ⟨item, hshows, hreadable, -⟩
    exact hunreadable item hshows hreadable
  exact {
    succeeded := by simp [hoperation, hnone]
    inProgress := by simp [hoperation, hnone]
    failed := by simpa using fun _ _ ↦ hunreadable
    missing := by simp [hoperation, hmissing]
    raised := by simpa using hraised
    unusable := fun _ _ ↦ ⟨why, rfl⟩ }

/-- A poll that finds a record reports its phase, or that the operation is not known. -/
private theorem verdict_ok {instanceId operation : String} {record : Record}
    (hoperation : operation ≠ removeOperation) (hshows : ShowsFirst o item)
    (hreadable : Readable item) (hcomplete : isComplete record = true ↔ IsFinished item) :
    Verdict instanceId operation r o (.ok
      (if operation = deployOperation then if isComplete record then .deployed else .deploying
        else .unknown operation)) := by
  obtain ⟨fields, rest, hprints, -⟩ := id hshows
  have hfound : ¬ FindsNothing r o := not_findsNothing hprints
  have hfirst (P : Json → Prop) :
      (∃ item, ShowsFirst o item ∧ Readable item ∧ P item) ↔ P item := by
    constructor
    · rintro ⟨other, hother, -, h⟩
      exact hshows.unique hother ▸ h
    · exact fun h ↦ ⟨item, hshows, hreadable, h⟩
  have hany : ∃ item, ShowsFirst o item ∧ Readable item := ⟨item, hshows, hreadable⟩
  have hraised : ∀ f, failedCommand? r o = some f → f.category ≠ .notFound → False := by
    simp [hprints.not_failed r]
  by_cases hdeploy : operation = deployOperation
  · subst hdeploy
    by_cases hfinished : IsFinished item
    · simp only [if_true, if_pos (hcomplete.mpr hfinished)]
      exact {
        succeeded := by simp [Status.deployed, hfirst, hfinished]
        inProgress := by simp [Status.deployed, hfirst, hfinished, hoperation]
        failed := by simp [Status.deployed]
        missing := by simp [hfound, hshows.not_none]
        raised := fun f hf hcategory ↦ (hraised f hf hcategory).elim
        unusable := fun _ hnone ↦ absurd hprints (hnone fields) }
    · simp only [if_true, if_neg (mt hcomplete.mp hfinished)]
      exact {
        succeeded := by simp [Status.deploying, hfirst, hfinished, hoperation]
        inProgress := by simp [Status.deploying, hfirst, hfinished]
        failed := by simp [Status.deploying]
        missing := by simp [hfound, hshows.not_none]
        raised := fun f hf hcategory ↦ (hraised f hf hcategory).elim
        unusable := fun _ hnone ↦ absurd hprints (hnone fields) }
  · simp only [if_neg hdeploy]
    exact {
      succeeded := by simp [Status.unknown, hdeploy, hoperation]
      inProgress := by simp [Status.unknown, hdeploy, hoperation]
      failed := by simp [Status.unknown, hdeploy, hoperation, hany]
      missing := by simp [hfound, hshows.not_none]
      raised := fun f hf hcategory ↦ (hraised f hf hcategory).elim
      unusable := fun _ hnone ↦ absurd hprints (hnone fields) }

/-- A poll on anything but a removal is decided by the record of the instance. -/
theorem verdict_record {instanceId operation : String} {answer : Except Failure Record}
    (hoperation : operation ≠ removeOperation) (h : Sought instanceId r o answer) :
    Verdict instanceId operation r o (answer.map fun record ↦
      if operation = deployOperation then if isComplete record then .deployed else .deploying
      else .unknown operation) := by
  cases h with
  | found hshows hreadable hphase =>
    exact verdict_ok hoperation hshows hreadable (isComplete_iff hphase)
  | missing hnone =>
    refine verdict_error hoperation (fun item hshows _ ↦ ?_) (iff_of_true rfl hnone) ?_
    · rcases hnone with hnothing | hempty
      · obtain ⟨fields, rest, hprints, -⟩ := hshows
        exact not_findsNothing hprints hnothing
      · exact hshows.not_none hempty
    · intro f hf hcategory
      rcases hnone with hnothing | ⟨fields, hprints, -⟩
      · exact absurd ((findsNothing_iff hf).mp hnothing) hcategory
      · exact absurd hprints (not_prints_of_failed hf fields)
  | failed f summary hf hcategory =>
    have hprints := not_prints_of_failed hf
    refine verdict_error hoperation (fun item hshows _ ↦ ?_) (iff_of_false nofun ?_) ?_
    · obtain ⟨fields, rest, h, -⟩ := hshows
      exact hprints fields h
    · rintro (hnothing | ⟨fields, h, -⟩)
      · exact hcategory ((findsNothing_iff hf).mp hnothing)
      · exact hprints fields h
    · simp only [hf, Option.some.injEq, forall_eq']
      exact fun _ ↦ ⟨summary, rfl⟩
  | unusable hwhy hnone hempty hunreadable =>
    refine verdict_error hoperation hunreadable (iff_of_false hwhy ?_) (by simp [hnone])
    rintro (⟨g, hg, -⟩ | hshows)
    · rw [hnone] at hg
      cases hg
    · exact hempty hshows

/-! ## Polls -/

variable {config : Config} {instanceId ns operation : String}

/-- Going on after a success with a value changes the value of the success. -/
theorem run_andThen_done {σ α β ε : Type} (handler : Handler σ)
    (p : Cluster.Program (Except ε α)) (f : α → β) (s : σ) :
    (p.andThen fun value ↦ .done (.ok (f value))).run handler s =
      ((p.run handler s).1.map f, (p.run handler s).2) := by
  rw [andThen, run_bind]
  cases (p.run handler s).1 <;> rfl

/-- A poll on anything but a removal seeks the record of the instance. -/
theorem run_lastOperation_record {σ : Type} (handler : Handler σ)
    (hns : namespaceFor config.namespacePrefix instanceId = .ok ns)
    (hoperation : operation ≠ removeOperation) (s : σ) :
    (lastOperation config instanceId operation).run handler s =
      (((soughtRecord instanceId (handler (.list Kind.developments (.str ns)) s).1).map fun record ↦
        if operation = deployOperation then if isComplete record then .deployed else .deploying
        else .unknown operation), (handler (.list Kind.developments (.str ns)) s).2) := by
  simp only [lastOperation, orFail, instanceNamespace, hns, mapError_ok, if_neg hoperation,
    deployStatus]
  split
  · rw [run_andThen_done, run_requireRecord]
  · rw [run_andThen_done, run_requireRecord]

/-- A poll after a removal asks for the namespace. -/
theorem run_lastOperation_removal {σ : Type} (handler : Handler σ)
    (hns : namespaceFor config.namespacePrefix instanceId = .ok ns) (s : σ) :
    (lastOperation config instanceId removeOperation).run handler s =
      (removalAnswer (handler (.get Kind.namespaces (.str ns) .null) s).1,
        (handler (.get Kind.namespaces (.str ns) .null) s).2) := by
  have hother : removeOperation ≠ deployOperation := by decide
  simp only [lastOperation, orFail, instanceNamespace, hns, mapError_ok, if_neg hother, if_true,
    removeStatus, run_call]
  cases (handler (.get Kind.namespaces (.str ns) .null) s).1 with
  | ok object => rfl
  | error f => cases hf : f.isNotFound <;> simp [removalAnswer, hf]

/-- The command that asks for a namespace. -/
private theorem command_removal {program limit : String} {command : Kubectl.Command}
    (h : IsCommand program limit (.get Kind.namespaces (.str ns) .null) command) :
    command = (pollWords program limit ns removeOperation).map .str := by
  cases h
  rfl

/-- The command that lists the development environments of a tenant. -/
private theorem command_record {program limit : String} {command : Kubectl.Command}
    (hoperation : operation ≠ removeOperation)
    (h : IsCommand program limit (.list Kind.developments (.str ns)) command) :
    command = (pollWords program limit ns operation).map .str := by
  rw [pollWords, if_neg hoperation]
  cases h
  rfl

/-- The runs of a status poll are those of one exchange: one read command, run again as long as its
failure may pass and attempts are left. The last run decides what the poll comes to. -/
theorem lastOperation_verdict
    (htimeout : ∃ negative significand exponent,
      config.stepTimeout = .finite negative significand exponent)
    (hns : namespaceFor config.namespacePrefix instanceId = .ok ns) (operation : String)
    (s : Kubectl.Session) :
    let after := (lastOperation config instanceId operation).run (Client.ofConfig config).handle s
    ∃ (limit : String) (e : Exchange),
      (Client.ofConfig config).requestTimeout = .ok limit ∧
      e.run.command = (pollWords config.program limit ns operation).map .str ∧
      e.Made (Client.ofConfig config) ∧ Ran s e.ended after.2 ∧
      Verdict instanceId operation e.run e.last after.1 := by
  intro after
  obtain ⟨limit, hlimit⟩ : ∃ limit, (Client.ofConfig config).requestTimeout = .ok limit :=
    Kubectl.exists_requestTimeout htimeout
  have htruthy : (Json.str ns).isTruthy = true := by
    simpa [Json.isTruthy] using Tenant.namespace_ne_empty hns
  have hcommand {e : Exchange} (hmade : e.Made (Client.ofConfig config)) :
      IsCommand config.program limit e.call e.run.command := by
    obtain ⟨limit', hlimit', hcommand⟩ := hmade.command
    obtain rfl := Except.ok.inj (hlimit.symm.trans hlimit')
    exact hcommand
  by_cases hoperation : operation = removeOperation
  · subst hoperation
    obtain ⟨e, hcall, hmade, hran, hanswers⟩ := Kubectl.exists_exchange hlimit
      (c := .get Kind.namespaces (.str ns) .null) ⟨rfl, fun h ↦ absurd h Bool.false_ne_true⟩ s
    refine ⟨limit, e, hlimit, command_removal (hcall ▸ hcommand hmade), hmade, ?_, ?_⟩
    · simp only [after, run_lastOperation_removal _ hns]
      exact hran
    · simp only [after, run_lastOperation_removal _ hns]
      exact verdict_removal hanswers instanceId
  · obtain ⟨e, hcall, hmade, hran, hanswers⟩ := Kubectl.exists_exchange hlimit
      (c := .list Kind.developments (.str ns)) ⟨rfl, fun _ ↦ htruthy⟩ s
    refine ⟨limit, e, hlimit, command_record hoperation (hcall ▸ hcommand hmade), hmade, ?_, ?_⟩
    · simp only [after, run_lastOperation_record _ hns hoperation]
      exact hran
    · simp only [after, run_lastOperation_record _ hns hoperation]
      exact verdict_record hoperation (sought_of_answers hanswers instanceId)

/-- The listing is refused once, and then shows a record whose phase is `Complete`. -/
theorem lastOperation_verdict_deployed :
    let s : Kubectl.Session := {
      planned := [.fixed (.finished 1 none (some "connection refused"))]
      afterwards := .fixed (.finished 0
        (some "\x7b\"items\":[\x7b\"status\":\x7b\"phase\":\"Complete\"\x7d\x7d]\x7d") none) }
    let after := (lastOperation {} "a" deployOperation).run (Client.ofConfig {}).handle s
    Reports after.1 .succeeded ∧ after.2.runs.length = 2 ∧
      ∃ (e : Exchange) (item : Json), Ran s e.ended after.2 ∧ ShowsFirst e.last item ∧
        Readable item ∧ IsFinished item := by
  intro s after
  have htimeout : ∃ negative significand exponent,
      ({} : Config).stepTimeout = .finite negative significand exponent := ⟨_, _, _, rfl⟩
  have hns : namespaceFor ({} : Config).namespacePrefix "a" = .ok "rhpam-a" := rfl
  obtain ⟨limit, e, -, -, -, hran, hverdict⟩ := lastOperation_verdict htimeout hns deployOperation s
  have hdeployed : after.1.toOption = some .deployed := by decide +kernel
  have hreports : Reports after.1 .succeeded := by
    cases hanswer : after.1 with
    | ok status =>
      rw [hanswer] at hdeployed
      exact ⟨status, rfl, congrArg Status.state (Option.some.inj hdeployed)⟩
    | error f => simp [hanswer, Except.toOption] at hdeployed
  refine ⟨hreports, by decide +kernel, e, ?_⟩
  rcases hverdict.succeeded.mp hreports with ⟨hremoval, -⟩ | ⟨-, item, hitem⟩
  · exact absurd hremoval (by decide)
  · exact ⟨item, hran, hitem⟩

end TenantBroker.Broker
