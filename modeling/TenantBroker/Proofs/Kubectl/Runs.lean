import TenantBroker.Proofs.Kubectl.Retry

/-!
# What is run in a session

The runs that a session makes, each with the outcome that came next in its script. The runs of one
call are runs of one command, and the last of them decides what the call comes to. For a create this
is the object that was printed, a failed command, output that cannot be used, or an object whose
metadata are no record.
-/

namespace TenantBroker.Kubectl

open Cluster (CommandFailure Failure Kind)

variable {s t u : Session} {r : Run} {ended later : List (Run × Outcome)}

/-! ## Runs and their outcomes -/

/-- A session has made some runs, which ended as its script says. -/
structure Ran (s : Session) (ended : List (Run × Outcome)) (t : Session) : Prop where
  runs : t.runs = s.runs ++ ended.map Prod.fst
  outcomes : ∀ (i : Nat) r o, ended[i]? = some (r, o) → o = s.outcome r i
  rest : ∀ r i, t.outcome r i = s.outcome r (ended.length + i)

/-- Nothing has been run yet. -/
theorem Ran.refl (s : Session) : Ran s [] s where
  runs := by simp
  outcomes i r o h := by simp at h
  rest r i := by simp

/-- Runs follow upon runs. -/
theorem Ran.trans (h : Ran s ended t) (h' : Ran t later u) : Ran s (ended ++ later) u where
  runs := by rw [h'.runs, h.runs, List.map_append, List.append_assoc]
  outcomes i r o hi := by
    rw [List.getElem?_append] at hi
    split at hi
    · exact h.outcomes i r o hi
    · next hlater =>
      rw [h'.outcomes _ r o hi, h.rest, Nat.add_sub_cancel' (Nat.le_of_not_lt hlater)]
  rest r i := by rw [h'.rest, h.rest, List.length_append, Nat.add_assoc]

/-- A wait is no run. -/
theorem Ran.wait (h : Ran s ended t) (length : Binary64) : Ran s ended (t.wait length) :=
  ⟨h.runs, h.outcomes, h.rest⟩

/-- One run ends as the next outcome says. -/
theorem ran_run (s : Session) (r : Run) : Ran s [(r, s.outcome r 0)] (s.run r).2 where
  runs := runs_run s r
  outcomes i r' o h := by
    cases i with
    | zero =>
      obtain ⟨rfl, rfl⟩ := Prod.mk.inj (Option.some.inj h)
      rfl
    | succ i => cases h
  rest r' i := by
    rw [List.length_singleton, Nat.add_comm]
    unfold Session.run Session.outcome
    cases s.planned with
    | nil => rfl
    | cons next rest => rfl

/-- Attempts are runs of one command. All but the last are to be repeated, and the last one decides.
The induction is on the repetitions that are left. -/
theorem ran_attempt (summary : String) (again : Failure → Bool) (backoff : Binary64) (r : Run)
    (left number : Nat) (s : Session) :
    ∃ (earlier : List Outcome) (last : Outcome),
      Ran s ((earlier ++ [last]).map (r, ·)) (attempt summary again backoff r left number s).2 ∧
      earlier.length ≤ left ∧ (∀ o ∈ earlier, Repeats summary again r o) ∧
      (attempt summary again backoff r left number s).1 =
        conclude summary r.limit r.command last := by
  induction left generalizing number s with
  | zero =>
    rw [attempt_final (.inl rfl)]
    exact ⟨[], s.outcome r 0, ran_run s r, Nat.le_refl 0, List.forall_mem_nil _, rfl⟩
  | succ left ih =>
    by_cases hagain : Repeats summary again r (s.outcome r 0)
    · rw [attempt_again hagain]
      obtain ⟨earlier, last, hran, hbound, hearlier, hresult⟩ :=
        ih (number + 1) ((s.run r).2.wait (waitAfter backoff number))
      refine ⟨s.outcome r 0 :: earlier, last, ?_, Nat.succ_le_succ hbound, ?_, hresult⟩
      · exact ((ran_run s r).wait _).trans hran
      · exact List.forall_mem_cons.mpr ⟨hagain, hearlier⟩
    · rw [attempt_final (.inr hagain)]
      exact ⟨[], s.outcome r 0, ran_run s r, Nat.zero_le _, List.forall_mem_nil _, rfl⟩

/-! ## The first words of a command -/

/-- The first words of a command: the program, its time limit, and the namespace if the kind has
one. -/
def opening (program limit : String) (kind : Kind) (ns : Json) : Command :=
  .str program :: .str limit :: if kind.namespaced then [.str "--namespace", ns] else []

/-- Under a finite time limit the time that a request may take is put in words. -/
theorem exists_requestTimeout {client : Client}
    (h : ∃ negative significand exponent,
      client.timeout = .finite negative significand exponent) :
    ∃ limit, client.requestTimeout = .ok limit := by
  obtain ⟨negative, significand, exponent, h⟩ := h
  rw [Client.requestTimeout, h]
  exact ⟨_, rfl⟩

/-- A command opens with the words for its place. -/
theorem start_eq_opening {client : Client} {limit : String} {kind : Kind} {ns : Json}
    (hlimit : client.requestTimeout = .ok limit)
    (hplace : kind.namespaced = true → ns.isTruthy = true) :
    client.start kind ns = .ok (opening client.program limit kind ns) := by
  unfold Client.start opening
  rw [hlimit]
  cases hkind : kind.namespaced with
  | false => rfl
  | true => rw [hplace hkind]; rfl

/-! ## What a create runs -/

/-- The words of the command that creates an object, in a namespace if its kind has one. -/
def createWords (program limit : String) (kind : Kind) (ns : String) : List String :=
  program :: limit :: (if kind.namespaced then ["--namespace", ns] else []) ++
    ["create", "-f", manifestPath, "-o", "json"]

/-- The words of a command that consists of texts. -/
theorem words?_map_str (words : List String) : words? (words.map .str) = some words := by
  unfold words?
  induction words with
  | nil => rfl
  | cons word rest ih =>
    rw [List.map_cons, List.mapM_cons, ih]
    rfl

/-- What a create replies to an outcome of its run. -/
def createReply (what : String) (r : Run) (o : Outcome) : Except Failure Json :=
  conclude ("Failed to create " ++ what) r.limit r.command o >>= fun result ↦
    printedObject what result.stdout >>= Client.checkCreated

/-- A create runs one command that submits the manifest, and replies to its last outcome. -/
theorem create_runs {client : Client} {limit ns display : String} {kind : Kind}
    {manifest given : Json} (hlimit : client.requestTimeout = .ok limit)
    (hsubmission : Client.submission manifest = .ok (given, display))
    (hgiven : kind.namespaced = true → given = .str ns) (hns : ns ≠ "") (s : Session) :
    let r : Run := ⟨(createWords client.program limit kind ns).map .str,
      some (.real client.timeout), some manifest⟩
    ∃ (earlier : List Outcome) (last : Outcome),
      Ran s ((earlier ++ [last]).map (r, ·)) (client.handle (.create kind manifest) s).2 ∧
      earlier.length ≤ client.attempts - 1 ∧
      (∀ o ∈ earlier, IsRepeated (.create kind manifest) r o) ∧
      (client.handle (.create kind manifest) s).1 =
        createReply (kind.name ++ " " ++ display) r last := by
  intro r
  have hstart : client.start kind given = .ok (opening client.program limit kind given) := by
    refine start_eq_opening hlimit fun hkind ↦ ?_
    rw [hgiven hkind]
    simpa [Json.isTruthy] using hns
  have hcommand : opening client.program limit kind given ++
      ["create", "-f", manifestPath, "-o", "json"].map .str = r.command := by
    simp only [r, createWords, opening]
    cases hkind : kind.namespaced with
    | false => rfl
    | true => rw [hgiven hkind]; rfl
  have hclient : client.handle (.create kind manifest) s =
      Client.afterwards (attempt ("Failed to create " ++ (kind.name ++ " " ++ display))
        repeatsCreate client.backoff r (client.attempts - 1) 1 s) fun stdout ↦
          printedObject (kind.name ++ " " ++ display) stdout >>= Client.checkCreated := by
    simp only [Client.handle, Client.create, hsubmission, hstart, Client.execute, hcommand]
    rfl
  obtain ⟨earlier, last, hran, hbound, hearlier, hresult⟩ :=
    ran_attempt ("Failed to create " ++ (kind.name ++ " " ++ display)) repeatsCreate client.backoff
      r (client.attempts - 1) 1 s
  refine ⟨earlier, last, ?_, hbound, fun o ho ↦ (repeats_iff _ _ r o).mp (hearlier o ho), ?_⟩
  · rw [hclient]
    exact hran
  · rw [hclient, Client.afterwards, hresult]
    rfl

/-! ## What a create replies -/

/-- A run ended well and printed an object. -/
def Prints (o : Outcome) (fields : List (String × Json)) : Prop :=
  ∃ stdout stderr, o = .finished 0 stdout stderr ∧ Json.read (stdout.getD "") = .ok (.obj fields)

/-- The metadata of an object are a record, if it has any. -/
def HasRecord (fields : List (String × Json)) : Prop :=
  ∀ metadata, Json.field? fields "metadata" = some metadata → ∃ inner, metadata = .obj inner

/-- What a create can reply to an outcome. -/
inductive Replies (what : String) (r : Run) (o : Outcome) : Except Failure Json → Prop
  | object (fields : List (String × Json)) (hprints : Prints o fields)
      (hrecord : HasRecord fields) : Replies what r o (.ok (.obj fields))
  | shapeless (fields : List (String × Json)) (hprints : Prints o fields)
      (hrecord : ¬ HasRecord fields) : Replies what r o (.error (.defect .notRecord))
  | failed (f : CommandFailure) (hfailed : failedCommand? r o = some f) :
      Replies what r o
        (.error (.cause (.command { f with summary := "Failed to create " ++ what })))
  | unusable (fault : Cluster.ValueFault) (hprints : ∀ fields, ¬ Prints o fields)
      (hfailed : failedCommand? r o = none) : Replies what r o (.error (.cause (.value fault)))

variable {what : String} {o : Outcome}

/-- A run that printed an object is no failed command. -/
theorem Prints.not_failed {fields : List (String × Json)} (h : Prints o fields) (r : Run) :
    failedCommand? r o = none := by
  obtain ⟨stdout, stderr, rfl, -⟩ := h
  rfl

/-- A run prints one object at most. -/
theorem Prints.unique {fields fields' : List (String × Json)} (h : Prints o fields)
    (h' : Prints o fields') : fields = fields' := by
  obtain ⟨stdout, stderr, rfl, hread⟩ := h
  obtain ⟨stdout', stderr', hsame, hread'⟩ := h'
  obtain ⟨-, rfl, -⟩ := Outcome.finished.inj hsame
  exact Json.obj.inj (Except.ok.inj (hread.symm.trans hread'))

/-- What can be read of the metadata of an object that was created. -/
theorem checkCreated_obj (fields : List (String × Json)) :
    HasRecord fields ∧ Client.checkCreated (.obj fields) = .ok (.obj fields) ∨
      ¬ HasRecord fields ∧ Client.checkCreated (.obj fields) = .error (.defect .notRecord) := by
  unfold HasRecord Client.checkCreated
  simp only [Json.getD, Json.fields, Except.map, bind, Except.bind]
  cases hmetadata : Json.field? fields "metadata" with
  | none =>
    refine .inl ⟨?_, rfl⟩
    intro _ h
    cases h
  | some metadata =>
    cases metadata with
    | obj inner => exact .inl ⟨fun _ h ↦ ⟨inner, (Option.some.inj h).symm⟩, rfl⟩
    | _ =>
      refine .inr ⟨fun h ↦ ?_, rfl⟩
      obtain ⟨inner, hinner⟩ := h _ rfl
      cases hinner

/-- What a run printed is an object, or reading it fails for a reason that is no failed command. -/
theorem printedObject_cases (what : String) (stdout stderr : Option String) :
    (∃ fields, Prints (.finished 0 stdout stderr) fields ∧
      printedObject what (stdout.getD "") = .ok (.obj fields)) ∨
    (∀ fields, ¬ Prints (.finished 0 stdout stderr) fields) ∧
      ∃ fault, printedObject what (stdout.getD "") = .error (.cause (.value fault)) := by
  have hnot (h : ∀ fields, Json.read (stdout.getD "") ≠ .ok (.obj fields)) :
      ∀ fields, ¬ Prints (.finished 0 stdout stderr) fields := by
    rintro fields ⟨stdout', stderr', hsame, hread⟩
    obtain ⟨-, rfl, -⟩ := Outcome.finished.inj hsame
    exact h fields hread
  unfold printedObject
  cases hread : Json.read (stdout.getD "") with
  | error fault =>
    refine .inr ⟨hnot fun fields h ↦ by simp [hread] at h, ?_⟩
    cases fault with
    | tooManyDigits count => exact ⟨_, rfl⟩
    | malformed => exact ⟨_, rfl⟩
  | ok value =>
    cases value with
    | obj fields => exact .inl ⟨fields, ⟨stdout, stderr, rfl, hread⟩, rfl⟩
    | _ => exact .inr ⟨hnot fun fields h ↦ by simp [hread] at h, _, rfl⟩

private theorem replies_printed (what : String) (r : Run) (stdout stderr : Option String) :
    Replies what r (.finished 0 stdout stderr)
      (printedObject what (stdout.getD "") >>= Client.checkCreated) := by
  rcases printedObject_cases what stdout stderr with
    ⟨fields, hprints, hread⟩ | ⟨hnone, fault, hread⟩
  · rw [hread]
    show Replies what r _ (Client.checkCreated (.obj fields))
    rcases checkCreated_obj fields with ⟨hrecord, hcheck⟩ | ⟨hrecord, hcheck⟩
    · rw [hcheck]
      exact .object fields hprints hrecord
    · rw [hcheck]
      exact .shapeless fields hprints hrecord
  · rw [hread]
    exact .unusable fault hnone rfl

/-- What was captured is no text for one reason only. -/
theorem decode_error {captured : Captured} {f : Failure} (h : captured.decode = .error f) :
    ∃ fault, f = .cause (.value fault) := by
  cases captured with
  | nothing => cases h
  | text value => cases h
  | bytes value =>
    simp only [Captured.decode] at h
    cases hdecoded : Text.Utf8.decode value with
    | ok cs =>
      rw [hdecoded] at h
      cases h
    | error fault =>
      rw [hdecoded] at h
      exact ⟨_, (Except.error.inj h).symm⟩

/-- A create replies with an object to a run that ended well and printed one, unless the metadata
are no record, and it fails otherwise. -/
theorem replies_createReply {program : String} {words : List String}
    (hcommand : r.command = (program :: words).map .str) (what : String) (o : Outcome) :
    Replies what r o (createReply what r o) := by
  have hfailed (returncode : Int) (stdout stderr : String) (hcode : returncode ≠ 0)
      (hresult : o.result r.limit r.command = .ok ⟨returncode, stdout, stderr⟩) :
      Replies what r o (createReply what r o) := by
    have hconclude (summary : String) : conclude summary r.limit r.command o =
        .error (.cause (.command ⟨summary, program :: words, returncode, stdout, stderr,
          classify returncode stderr stdout⟩)) := by
      rw [conclude, hresult]
      simp only [if_neg hcode, Result.failure]
      rw [hcommand, words?_map_str]
    unfold createReply
    rw [hconclude]
    refine .failed ⟨"", program :: words, returncode, stdout, stderr,
      classify returncode stderr stdout⟩ ?_
    simp only [failedCommand?, hconclude]
  cases o with
  | expired captured =>
    cases hdecoded : captured.decode with
    | ok stdout =>
      exact hfailed (-1) stdout _ (by decide) (by simp only [Outcome.result, hdecoded]; rfl)
    | error f =>
      obtain ⟨fault, rfl⟩ := decode_error hdecoded
      have hconclude (summary : String) : conclude summary r.limit r.command (.expired captured) =
          .error (.cause (.value fault)) := by
        simp only [conclude, Outcome.result, hdecoded]
        rfl
      unfold createReply
      rw [hconclude]
      refine .unusable fault ?_ ?_
      · rintro fields ⟨stdout, stderr, hsame, -⟩
        cases hsame
      · simp only [failedCommand?, hconclude]
  | unstartable fault => exact hfailed 127 "" _ (by decide) (by rw [hcommand]; rfl)
  | finished returncode stdout stderr =>
    by_cases hcode : returncode = 0
    · subst hcode
      exact replies_printed what r stdout stderr
    · exact hfailed returncode _ _ hcode rfl

end TenantBroker.Kubectl
