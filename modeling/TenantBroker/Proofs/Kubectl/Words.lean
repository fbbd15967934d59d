import TenantBroker.Proofs.Kubectl.Exchange

/-!
# Commands of texts

The names in a command come from records and may be any value. Where those of a call are texts, so
is its whole command, and each run of it either succeeds or fails for a cause. What is left is the
output of a run that succeeded: it is unusable for a cause unless it is an object, and only an
object of another shape than the call expects is a defect.
-/

namespace TenantBroker.Kubectl

open Cluster (Call Cause Failure Kind)

variable {client : Client} {command : Command} {kind : Kind} {ns : Json} {o : Outcome} {c : Call}

/-! ## Runs of texts -/

/-- A command is made of texts, and has a first word. -/
def Spelled (command : Command) : Prop :=
  ∃ (program : String) (words : List String), command = (program :: words).map .str

/-- A result of a command of texts fails for a cause. -/
theorem Spelled.failure (h : Spelled command) (result : Result) (summary : String) :
    ∃ words, result.failure summary command = .cause (.command ⟨summary, words, result.returncode,
      result.stdout, result.stderr, classify result.returncode result.stderr result.stdout⟩) := by
  obtain ⟨program, words, rfl⟩ := h
  exact ⟨program :: words, by rw [Result.failure, words?_map_str]⟩

/-- An outcome of a command of texts has a result, or none for a cause. -/
theorem Spelled.result_error (h : Spelled command) {limit : Option Number} {f : Failure}
    (hf : o.result limit command = .error f) : ∃ why, f = .cause why := by
  cases o with
  | expired captured =>
    simp only [Outcome.result] at hf
    cases hdecoded : captured.decode with
    | ok text =>
      rw [hdecoded] at hf
      cases hf
    | error g =>
      rw [hdecoded] at hf
      obtain ⟨fault, rfl⟩ := decode_error hdecoded
      exact ⟨_, (Except.error.inj hf).symm⟩
  | unstartable fault =>
    obtain ⟨program, words, rfl⟩ := h
    cases hf
  | finished returncode stdout stderr => cases hf

/-- A run of a command of texts ended well, or it fails for a cause. -/
theorem Spelled.conclude (h : Spelled command) (summary : String) (limit : Option Number)
    (o : Outcome) :
    (∃ stdout stderr, o = .finished 0 stdout stderr ∧
      conclude summary limit command o = .ok ⟨0, stdout.getD "", stderr.getD ""⟩) ∨
    (∀ stdout stderr, o ≠ .finished 0 stdout stderr) ∧
      ∃ why, conclude summary limit command o = .error (.cause why) := by
  cases hconclude : Kubectl.conclude summary limit command o with
  | ok result =>
    obtain ⟨stdout, stderr, ho, rfl⟩ := conclude_eq_ok_iff.mp hconclude
    exact .inl ⟨stdout, stderr, ho, rfl⟩
  | error f =>
    refine .inr ⟨?_, ?_⟩
    · rintro stdout stderr rfl
      cases hconclude
    · unfold Kubectl.conclude at hconclude
      cases hresult : o.result limit command with
      | error g =>
        obtain ⟨why, rfl⟩ := h.result_error hresult
        simp only [hresult] at hconclude
        exact ⟨why, hconclude.symm⟩
      | ok result =>
        obtain ⟨words, hwords⟩ := h.failure result summary
        simp only [hresult, hwords] at hconclude
        split at hconclude
        · cases hconclude
        · exact ⟨_, hconclude.symm⟩

/-! ## Calls whose commands are texts -/

/-- The namespace of a call is a text, unless it does not stand in the command. -/
def Located (kind : Kind) (ns : Json) : Prop :=
  kind.namespaced = true → ns.isTruthy = true → ∃ text, ns = .str text

/-- The call can be put as a command of texts. -/
def Worded : Call → Prop
  | .create kind manifest => manifest.isWritable = true ∧ ∃ fields,
      manifest.metadata = .ok (.obj fields) ∧
      Located kind ((Json.field? fields "namespace").getD .null)
  | .get kind name ns | .delete kind name ns => (∃ text, name = .str text) ∧ Located kind ns
  | .list kind ns => ns.isWritable = true ∧ Located kind ns

/-- The first words of a command are texts if the namespace is. -/
theorem Located.start (h : Located kind ns) {limit : String}
    (hlimit : client.requestTimeout = .ok limit) :
    ∃ words, client.start kind ns = .ok ((client.program :: words).map .str) := by
  simp only [Client.start, hlimit, Except.map]
  by_cases hshown : (kind.namespaced && ns.isTruthy) = true
  · obtain ⟨hkind, hns⟩ := Bool.and_eq_true_iff.mp hshown
    obtain ⟨text, rfl⟩ := h hkind hns
    exact ⟨[limit, "--namespace", text], by rw [if_pos hshown]; rfl⟩
  · exact ⟨[limit], by rw [if_neg hshown]; rfl⟩

/-- What a call replies to an outcome of its run. An object was printed exactly if the call succeeds
or has a defect; a delete does not read what was printed. -/
inductive Ends (o : Outcome) : (c : Call) → Except Failure c.Reply → Prop
  | created {kind : Kind} {manifest : Json} {fields : List (String × Json)} (h : Prints o fields)
      (hrecord : HasRecord fields) : Ends o (.create kind manifest) (.ok (.obj fields))
  | found {kind : Kind} {name ns : Json} {fields : List (String × Json)} (h : Prints o fields) :
      Ends o (.get kind name ns) (.ok (.obj fields))
  | listed {kind : Kind} {ns : Json} {items : List Json} (h : Lists o items) :
      Ends o (.list kind ns) (.ok items)
  | deleted {kind : Kind} {name ns : Json} {stdout stderr : Option String}
      (h : o = .finished 0 stdout stderr) : Ends o (.delete kind name ns) (.ok ())
  | failed {c : Call} (why : Cause) (hprints : ∀ fields, ¬ Prints o fields) :
      Ends o c (.error (.cause why))
  | misshapen {c : Call} (d : Defect) {fields : List (String × Json)} (h : Prints o fields)
      (hnot : ¬ Serves o c) : Ends o c (.error (.defect d))

/-- The items that a list replies with are those of the listing. -/
theorem Ends.lists {items : List Json} (h : Ends o (.list kind ns) (.ok items)) :
    Lists o items := by
  cases h with
  | listed hlists => exact hlists

/-- A deletion whose command is made of texts is no defect. -/
theorem Ends.delete_ne_defect {name : Json} {reply : Except Failure Unit}
    (h : Ends o (.delete kind name ns) reply) (d : Defect) : reply ≠ .error (.defect d) := by
  cases h with
  | deleted ho => nofun
  | failed why hprints => nofun
  | misshapen d h hnot =>
    obtain ⟨stdout, stderr, ho, -⟩ := h
    exact absurd ⟨stdout, stderr, ho⟩ hnot

/-- What a list replies to a run that ended well. -/
theorem ends_listed (kind : Kind) (ns : Json) (what : String) (stdout stderr : Option String) :
    Ends (.finished 0 stdout stderr) (.list kind ns)
      (printedObject what (stdout.getD "") >>= Client.listedItems) := by
  rcases printedObject_cases what stdout stderr with
    ⟨fields, hprints, hread⟩ | ⟨hnone, fault, hread⟩
  · rw [hread]
    show Ends _ (.list kind ns) (Client.listedItems (.obj fields))
    cases hitems : Client.listedItems (.obj fields) with
    | ok items => exact .listed ⟨fields, hprints, hitems⟩
    | error f =>
      obtain ⟨d, rfl⟩ := listedItems_error hitems
      refine .misshapen d hprints ?_
      rintro ⟨items, fields', hprints', hitems'⟩
      obtain rfl := hprints.unique hprints'
      cases hitems.symm.trans hitems'
  · rw [hread]
    exact .failed _ hnone

/-- What a create replies to a run that ended well. -/
theorem ends_created (kind : Kind) (manifest : Json) (what : String)
    (stdout stderr : Option String) :
    Ends (.finished 0 stdout stderr) (.create kind manifest)
      (printedObject what (stdout.getD "") >>= Client.checkCreated) := by
  rcases printedObject_cases what stdout stderr with
    ⟨fields, hprints, hread⟩ | ⟨hnone, fault, hread⟩
  · rw [hread]
    show Ends _ (.create kind manifest) (Client.checkCreated (.obj fields))
    rcases checkCreated_obj fields with ⟨hrecord, hcheck⟩ | ⟨hrecord, hcheck⟩
    · rw [hcheck]
      exact .created hprints hrecord
    · rw [hcheck]
      refine .misshapen _ hprints ?_
      rintro ⟨fields', hprints', hrecord'⟩
      obtain rfl := hprints.unique hprints'
      exact hrecord hrecord'
  · rw [hread]
    exact .failed _ hnone

/-- What a get replies to a run that ended well. -/
theorem ends_found (kind : Kind) (name ns : Json) (what : String) (stdout stderr : Option String) :
    Ends (.finished 0 stdout stderr) (.get kind name ns)
      (printedObject what (stdout.getD "")) := by
  rcases printedObject_cases what stdout stderr with
    ⟨fields, hprints, hread⟩ | ⟨hnone, fault, hread⟩
  · rw [hread]
    exact .found hprints
  · rw [hread]
    exact .failed _ hnone

/-- A call that can be put as a command of texts is attempts of this command, and it replies to a
run that ended well. -/
theorem exists_wording {limit : String} (hlimit : client.requestTimeout = .ok limit)
    (hc : Worded c) (s : Session) :
    ∃ plan : Plan c.Reply, Spelled plan.run.command ∧
      plan.run.limit = some (.real client.timeout) ∧ plan.run.manifest = submitted? c ∧
      client.handle c s = Client.afterwards (attempt plan.summary (repeatsOf c) client.backoff
        plan.run (client.attempts - 1) 1 s) plan.read ∧
      ∀ stdout stderr, Ends (.finished 0 stdout stderr) c (plan.read (stdout.getD "")) := by
  cases c with
  | create kind manifest =>
    obtain ⟨hwritable, fields, hmetadata, hlocated⟩ := hc
    obtain ⟨display, hsubmission⟩ := submission_ok hmetadata hwritable
    obtain ⟨words, hstart⟩ := hlocated.start hlimit
    refine ⟨⟨"Failed to create " ++ (kind.name ++ " " ++ display),
      ⟨(client.program :: words ++ ["create", "-f", manifestPath, "-o", "json"]).map .str,
        some (.real client.timeout), some manifest⟩,
      fun stdout ↦ printedObject (kind.name ++ " " ++ display) stdout >>= Client.checkCreated⟩,
      ⟨_, _, rfl⟩, rfl, rfl, ?_, ends_created kind manifest _⟩
    simp only [Client.handle, Client.create, hsubmission, hstart, Client.execute, List.map_append]
    rfl
  | get kind name ns =>
    obtain ⟨⟨name, rfl⟩, hlocated⟩ := hc
    obtain ⟨words, hstart⟩ := hlocated.start hlimit
    refine ⟨⟨"Failed to get " ++ (kind.name ++ " " ++ (Json.str name).shown),
      ⟨(client.program :: words ++ ["get", kind.resource, name, "-o", "json"]).map .str,
        some (.real client.timeout), none⟩,
      printedObject (kind.name ++ " " ++ (Json.str name).shown)⟩,
      ⟨_, _, rfl⟩, rfl, rfl, ?_, ends_found kind (.str name) ns _⟩
    simp only [Client.handle, Client.get, hstart, showing_ok (Json.isWritable_str name),
      Client.execute, List.map_append]
    rfl
  | list kind ns =>
    obtain ⟨hwritable, hlocated⟩ := hc
    obtain ⟨words, hstart⟩ := hlocated.start hlimit
    refine ⟨⟨"Failed to list " ++ kind.name ++ " in namespace " ++ ns.shown,
      ⟨(client.program :: words ++ ["get", kind.resource, "-o", "json"]).map .str,
        some (.real client.timeout), none⟩,
      fun stdout ↦ printedObject (kind.name ++ " list") stdout >>= Client.listedItems⟩,
      ⟨_, _, rfl⟩, rfl, rfl, ?_, ends_listed kind ns _⟩
    simp only [Client.handle, Client.list, hstart, showing_ok hwritable, Client.execute,
      List.map_append]
    rfl
  | delete kind name ns =>
    obtain ⟨⟨name, rfl⟩, hlocated⟩ := hc
    obtain ⟨words, hstart⟩ := hlocated.start hlimit
    refine ⟨⟨"Failed to delete " ++ kind.name ++ " " ++ (Json.str name).shown,
      ⟨(client.program :: words ++ ["delete", kind.resource, name, "--wait=false"]).map .str,
        some (.real client.timeout), none⟩, fun _ ↦ .ok ()⟩,
      ⟨_, _, rfl⟩, rfl, rfl, ?_, fun stdout stderr ↦ .deleted rfl⟩
    simp only [Client.handle, Client.delete, hstart, showing_ok (Json.isWritable_str name),
      Client.execute, List.map_append]
    rfl

/-- A call whose command is made of texts comes to what its last run does. -/
theorem exists_ends {limit : String} (hlimit : client.requestTimeout = .ok limit) (hc : Worded c)
    (s : Session) :
    ∃ (r : Run) (earlier : List Outcome) (last : Outcome),
      Ran s ((earlier ++ [last]).map (r, ·)) (client.handle c s).2 ∧
      Ends last c (client.handle c s).1 := by
  obtain ⟨plan, hspelled, -, -, hhandle, hread⟩ := exists_wording hlimit hc s
  obtain ⟨earlier, last, hran, -, -, hresult⟩ := ran_attempt plan.summary (repeatsOf c)
    client.backoff plan.run (client.attempts - 1) 1 s
  refine ⟨plan.run, earlier, last, hhandle ▸ hran, ?_⟩
  rw [hhandle, Client.afterwards, hresult]
  rcases hspelled.conclude plan.summary plan.run.limit last with
    ⟨stdout, stderr, rfl, hconclude⟩ | ⟨hnot, why, hconclude⟩
  · rw [hconclude]
    exact hread stdout stderr
  · rw [hconclude]
    refine .failed why ?_
    rintro fields ⟨stdout, stderr, rfl, -⟩
    exact hnot stdout stderr rfl

end TenantBroker.Kubectl
