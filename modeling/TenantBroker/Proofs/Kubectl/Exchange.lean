import TenantBroker.Proofs.Cluster.Conduct
import TenantBroker.Proofs.Json.Writable
import TenantBroker.Proofs.Kubectl.Runs

/-!
# Exchanges with the server

A get, a list or a delete behind kubectl is an exchange: one command is run, again as long as its
failure may pass and attempts are left, and the last run decides what the call comes to. A program
of such calls is a sequence of exchanges, each of which is chosen by what the ones before it came
to.
-/

namespace TenantBroker.Kubectl

open Cluster (Call CommandFailure Failure Kind Program)
open Cluster.Program

/-! ## Commands that read and delete -/

/-- The command of a call that reads or deletes. -/
inductive IsCommand (program limit : String) : Call → Command → Prop
  | get (kind : Kind) (name ns : Json) :
      IsCommand program limit (.get kind name ns) (opening program limit kind ns ++
        [.str "get", .str kind.resource, name, .str "-o", .str "json"])
  | list (kind : Kind) (ns : Json) :
      IsCommand program limit (.list kind ns) (opening program limit kind ns ++
        [.str "get", .str kind.resource, .str "-o", .str "json"])
  | delete (kind : Kind) (name ns : Json) :
      IsCommand program limit (.delete kind name ns) (opening program limit kind ns ++
        [.str "delete", .str kind.resource, name, .str "--wait=false"])

/-- The call reads or deletes, in a namespace that counts as present if its kind has one, and what
it is to write has a text. -/
def Placed (c : Call) : Prop :=
  Writes c ∧
    match c with
    | .create _ _ => False
    | .get kind _ ns | .list kind ns | .delete kind _ ns =>
      kind.namespaced = true → ns.isTruthy = true

variable {client : Client} {limit summary : String} {kind : Kind} {ns : Json} {r : Run}
  {o : Outcome}

/-! ## What an outcome comes to -/

/-- A run succeeds if it ends by itself with the return code zero. -/
theorem conclude_eq_ok_iff {limit : Option Number} {command : Command} {result : Result} :
    conclude summary limit command o = .ok result ↔
      ∃ stdout stderr, o = .finished 0 stdout stderr ∧
        result = ⟨0, stdout.getD "", stderr.getD ""⟩ := by
  constructor
  · intro h
    unfold conclude at h
    cases ho : o.result limit command with
    | error f => simp [ho] at h
    | ok value =>
      simp only [ho] at h
      split at h
      · next hcode =>
        obtain rfl := Except.ok.inj h
        cases o with
        | finished returncode stdout stderr =>
          obtain rfl := Except.ok.inj ho
          obtain rfl : returncode = 0 := hcode
          exact ⟨stdout, stderr, rfl, rfl⟩
        | expired captured =>
          obtain ⟨stdout, -, rfl⟩ := map_eq_ok_iff.mp ho
          cases hcode
        | unstartable fault =>
          cases command with
          | nil => cases ho
          | cons program rest =>
            obtain rfl := Except.ok.inj ho
            cases hcode
      · cases h
  · rintro ⟨stdout, stderr, rfl, rfl⟩
    rfl

/-- A run ended well and printed a listing of some items. -/
def Lists (o : Outcome) (items : List Json) : Prop :=
  ∃ fields, Prints o fields ∧ Client.listedItems (.obj fields) = .ok items

/-- A run lists one list of items at most. -/
theorem Lists.unique {items others : List Json} (h : Lists o items) (h' : Lists o others) :
    items = others := by
  obtain ⟨fields, hprints, hitems⟩ := h
  obtain ⟨fields', hprints', hothers⟩ := h'
  obtain rfl := hprints.unique hprints'
  exact Except.ok.inj (hitems.symm.trans hothers)

/-- An outcome gives a call what it asks for. -/
def Serves (o : Outcome) : Call → Prop
  | .create _ _ => ∃ fields, Prints o fields ∧ HasRecord fields
  | .get _ _ _ => ∃ fields, Prints o fields
  | .list _ _ => ∃ items, Lists o items
  | .delete _ _ _ => ∃ stdout stderr, o = .finished 0 stdout stderr

/-- The object of a call is not there, or there are none of its kind. -/
def FindsNothing (r : Run) (o : Outcome) : Prop :=
  ∃ f, failedCommand? r o = some f ∧ f.category = .notFound

/-- What a call that reads or deletes can come to with an outcome. -/
inductive Answers (r : Run) (o : Outcome) : (c : Call) → Except Failure c.Reply → Prop
  | found {kind : Kind} {name ns : Json} {fields : List (String × Json)} (h : Prints o fields) :
      Answers r o (.get kind name ns) (.ok (.obj fields))
  | listed {kind : Kind} {ns : Json} {items : List Json} (h : Lists o items) :
      Answers r o (.list kind ns) (.ok items)
  | deleted {kind : Kind} {name ns : Json} {stdout stderr : Option String}
      (h : o = .finished 0 stdout stderr) : Answers r o (.delete kind name ns) (.ok ())
  | failed {c : Call} (f : CommandFailure) (summary : String) (h : failedCommand? r o = some f) :
      Answers r o c (.error (.cause (.command { f with summary })))
  | unusable {c : Call} {f : Failure} (hnone : failedCommand? r o = none)
      (hcategory : f.category? = none) (hnot : ¬ Serves o c) : Answers r o c (.error f)

/-- An outcome that gives a call what it asks for is no failed command. -/
theorem Serves.not_failed {c : Call} (h : Serves o c) (r : Run) : failedCommand? r o = none := by
  cases c with
  | create kind manifest =>
    obtain ⟨fields, hprints, -⟩ := h
    exact hprints.not_failed r
  | get kind name ns =>
    obtain ⟨fields, hprints⟩ := h
    exact hprints.not_failed r
  | list kind ns =>
    obtain ⟨items, fields, hprints, -⟩ := h
    exact hprints.not_failed r
  | delete kind name ns =>
    obtain ⟨stdout, stderr, rfl⟩ := h
    rfl

/-- A call that succeeds was given what it asked for. -/
theorem Answers.serves {c : Call} {value : c.Reply} (h : Answers r o c (.ok value)) :
    Serves o c := by
  cases h with
  | found hprints => exact ⟨_, hprints⟩
  | listed hlists => exact ⟨_, hlists⟩
  | deleted ho => exact ⟨_, _, ho⟩

/-- The items that a list replies with are those of the listing. -/
theorem Answers.lists {items : List Json} (h : Answers r o (.list kind ns) (.ok items)) :
    Lists o items := by
  cases h with
  | listed hlists => exact hlists

/-- What a list replies with has a text. -/
def Legible : (c : Call) → Except Failure c.Reply → Prop
  | .list _ _, .ok items => ∀ item ∈ items, item.isWritable = true
  | _, _ => True

/-- The items of a listing that has a text have one. -/
theorem isWritable_listedItems {listing : Json} {items : List Json}
    (h : listing.isWritable = true) (hitems : Client.listedItems listing = .ok items) :
    ∀ item ∈ items, item.isWritable = true := by
  unfold Client.listedItems at hitems
  split at hitems
  · cases hitems
  · next found hfound =>
    have hlisted := Json.isWritable_getD h Json.isWritable_null hfound
    cases found with
    | arr listed =>
      obtain rfl := Except.ok.inj hitems
      exact Json.isWritable_arr.mp hlisted
    | obj listed =>
      obtain rfl := Except.ok.inj hitems
      exact List.forall_mem_map.mpr fun _ _ ↦ rfl
    | str text =>
      obtain rfl := Except.ok.inj hitems
      exact List.forall_mem_map.mpr fun _ _ ↦ rfl
    | null =>
      obtain rfl := Except.ok.inj hitems
      exact List.forall_mem_nil _
    | bool value =>
      cases value with
      | true => cases hitems
      | false =>
        obtain rfl := Except.ok.inj hitems
        exact List.forall_mem_nil _
    | num value =>
      simp only at hitems
      split at hitems
      · cases hitems
      · obtain rfl := Except.ok.inj hitems
        exact List.forall_mem_nil _

/-- What is listed has a text, because it was read from one. -/
theorem Lists.isWritable {items : List Json} (h : Lists o items) :
    ∀ item ∈ items, item.isWritable = true := by
  obtain ⟨fields, ⟨stdout, stderr, -, hread⟩, hitems⟩ := h
  exact isWritable_listedItems (Json.isWritable_of_read hread) hitems

/-- What a call comes to with an outcome is legible. -/
theorem Answers.legible {c : Call} {reply : Except Failure c.Reply} (h : Answers r o c reply) :
    Legible c reply := by
  cases h with
  | listed hlists => exact hlists.isWritable
  | found hprints => trivial
  | deleted ho => trivial
  | failed f summary hf => cases c <;> trivial
  | unusable hnone hcategory hnot => cases c <;> trivial

/-- A call that fails was not given what it asked for, and its failure says that nothing was found
exactly if nothing was. -/
theorem Answers.fails {c : Call} {f : Failure} (h : Answers r o c (.error f)) :
    ¬ Serves o c ∧ (f.isNotFound = true ↔ FindsNothing r o) := by
  cases h with
  | failed f summary hf =>
    refine ⟨fun hserves ↦ ?_, ?_⟩
    · rw [hserves.not_failed r] at hf
      cases hf
    · simp only [FindsNothing, hf, Option.some.injEq, exists_eq_left', Failure.isNotFound,
        Failure.category?, Cluster.Cause.category?, decide_eq_true_eq]
  | unusable hnone hcategory hnot =>
    refine ⟨hnot, ?_⟩
    simp only [FindsNothing, hnone, reduceCtorEq, false_and, exists_false, Failure.isNotFound,
      hcategory, decide_false, Bool.false_eq_true]

/-- What cannot be listed is a defect. -/
theorem listedItems_error {fields : List (String × Json)} {f : Failure}
    (h : Client.listedItems (.obj fields) = .error f) : ∃ d, f = .defect d := by
  unfold Client.listedItems at h
  split at h
  · exact ⟨_, (Except.error.inj h).symm⟩
  · next items _ =>
    cases items with
    | bool value =>
      cases value with
      | true => exact ⟨_, (Except.error.inj h).symm⟩
      | false => cases h
    | num value =>
      simp only at h
      split at h
      · exact ⟨_, (Except.error.inj h).symm⟩
      · cases h
    | _ => cases h

/-- A call comes to what is read of its output, or to the failure of its run. -/
theorem answers_conclude {c : Call} {read : String → Except Failure c.Reply}
    (hserves : Serves o c → ∃ stdout stderr, o = .finished 0 stdout stderr)
    (hread : ∀ stdout stderr, o = .finished 0 stdout stderr →
      Answers r o c (read (stdout.getD ""))) :
    Answers r o c (conclude summary r.limit r.command o >>= fun result ↦ read result.stdout) := by
  rcases conclude_cases r.limit r.command o with ⟨f, -, hf⟩ | ⟨other, hne, hother⟩
  · rw [hf]
    exact .failed { f with summary := "" } summary (by simp only [failedCommand?, hf])
  · rw [hother]
    cases other with
    | ok result =>
      obtain ⟨stdout, stderr, ho, rfl⟩ := conclude_eq_ok_iff.mp (hother "")
      exact hread stdout stderr ho
    | error f =>
      refine .unusable ?_ ?_ fun h ↦ ?_
      · unfold failedCommand?
        rw [hother]
        split
        · next g hg => exact absurd hg (hne g)
        · rfl
      · cases f with
        | defect d => rfl
        | cause why =>
          cases why with
          | command g => exact absurd rfl (hne g)
          | value fault => rfl
      · obtain ⟨stdout, stderr, ho⟩ := hserves h
        have hok := hother ""
        rw [conclude_eq_ok_iff.mpr ⟨stdout, stderr, ho, rfl⟩] at hok
        cases hok

/-! ## Exchanges -/

/-- The runs of one call. The last one decides. -/
structure Exchange where
  call : Call
  run : Run
  earlier : List Outcome
  last : Outcome

namespace Exchange

/-- The runs of an exchange with their outcomes. -/
def ended (e : Exchange) : List (Run × Outcome) := (e.earlier ++ [e.last]).map (e.run, ·)

/-- What the call of an exchange is to take away is gone: the call was given what it asked for, or
there was nothing. -/
def Clears (e : Exchange) : Prop := Serves e.last e.call ∨ FindsNothing e.run e.last

/-- All runs of an exchange are runs of the command of its call. There are as many as there may be
attempts at most, where the first run is made even if there may be none. All but the last failed in
a way that may pass. -/
structure Made (client : Client) (e : Exchange) : Prop where
  command : ∃ limit, client.requestTimeout = .ok limit ∧
    IsCommand client.program limit e.call e.run.command
  manifest : e.run.manifest = none
  attempts : (e.earlier ++ [e.last]).length ≤ max 1 client.attempts
  again : ∀ o ∈ e.earlier, IsRepeated e.call e.run o

/-- After a call that succeeds nothing is left of what it was to take away. -/
theorem clears_of_ok {e : Exchange} {c : Call} {value : c.Reply} (hcall : e.call = c)
    (h : Answers e.run e.last c (.ok value)) : e.Clears := by
  subst hcall
  exact .inl h.serves

/-- After a call that fails nothing is left exactly if the failure says that nothing was found. -/
theorem clears_iff_of_error {e : Exchange} {c : Call} {f : Failure} (hcall : e.call = c)
    (h : Answers e.run e.last c (.error f)) : e.Clears ↔ f.isNotFound = true := by
  subst hcall
  rw [h.fails.2, Clears, or_iff_right h.fails.1]

end Exchange

/-- Attempts of the command of a call are one exchange, and the call comes to what is read of the
last of them. -/
private theorem exchange_of_attempt (hlimit : client.requestTimeout = .ok limit) {c : Call}
    {command : Command} (hcommand : IsCommand client.program limit c command) (summary : String)
    (read : String → Except Failure c.Reply) {s : Session} (hrepeats : repeatsOf c = repeatsRead)
    (hhandle : client.handle c s = Client.afterwards (attempt summary repeatsRead client.backoff
      ⟨command, some (.real client.timeout), none⟩ (client.attempts - 1) 1 s) read)
    (hserves : ∀ o, Serves o c → ∃ stdout stderr, o = .finished 0 stdout stderr)
    (hread : ∀ r stdout stderr, Answers r (.finished 0 stdout stderr) c (read (stdout.getD ""))) :
    ∃ e : Exchange, e.call = c ∧ e.Made client ∧ Ran s e.ended (client.handle c s).2 ∧
      Answers e.run e.last c (client.handle c s).1 := by
  let r : Run := ⟨command, some (.real client.timeout), none⟩
  obtain ⟨earlier, last, hran, hbound, hearlier, hresult⟩ :=
    ran_attempt summary repeatsRead client.backoff r (client.attempts - 1) 1 s
  refine ⟨⟨c, r, earlier, last⟩, rfl, ⟨⟨limit, hlimit, hcommand⟩, rfl, ?_, fun o ho ↦ ?_⟩, ?_, ?_⟩
  · show (earlier ++ [last]).length ≤ max 1 client.attempts
    rw [List.length_append, List.length_singleton]
    omega
  · exact (repeats_iff c summary r o).mp (hrepeats ▸ hearlier o ho)
  · rw [hhandle]
    exact hran
  · rw [hhandle, Client.afterwards, hresult]
    refine answers_conclude (hserves last) ?_
    rintro stdout stderr rfl
    exact hread r stdout stderr

/-- A call that reads or deletes is one exchange, and comes to what its last outcome does. -/
theorem exists_exchange (hlimit : client.requestTimeout = .ok limit) {c : Call} (hc : Placed c)
    (s : Session) :
    ∃ e : Exchange, e.call = c ∧ e.Made client ∧ Ran s e.ended (client.handle c s).2 ∧
      Answers e.run e.last c (client.handle c s).1 := by
  cases c with
  | create kind manifest => exact hc.2.elim
  | get kind name ns =>
    refine exchange_of_attempt hlimit (.get kind name ns)
      ("Failed to get " ++ (kind.name ++ " " ++ name.shown))
      (printedObject (kind.name ++ " " ++ name.shown)) rfl ?_ ?_ ?_
    · simp only [Client.handle, Client.get, start_eq_opening hlimit hc.2, showing_ok hc.1,
        Client.execute]
    · rintro o ⟨fields, stdout, stderr, rfl, -⟩
      exact ⟨stdout, stderr, rfl⟩
    · intro r stdout stderr
      rcases printedObject_cases (kind.name ++ " " ++ name.shown) stdout stderr with
        ⟨fields, hprints, hread⟩ | ⟨hnone, fault, hread⟩
      · rw [hread]
        exact .found hprints
      · rw [hread]
        refine .unusable rfl rfl ?_
        rintro ⟨fields, h⟩
        exact hnone fields h
  | list kind ns =>
    refine exchange_of_attempt hlimit (.list kind ns)
      ("Failed to list " ++ kind.name ++ " in namespace " ++ ns.shown)
      (fun stdout ↦ printedObject (kind.name ++ " list") stdout >>= Client.listedItems) rfl ?_ ?_ ?_
    · simp only [Client.handle, Client.list, start_eq_opening hlimit hc.2, showing_ok hc.1,
        Client.execute]
    · rintro o ⟨items, fields, ⟨stdout, stderr, rfl, -⟩, -⟩
      exact ⟨stdout, stderr, rfl⟩
    · intro r stdout stderr
      rcases printedObject_cases (kind.name ++ " list") stdout stderr with
        ⟨fields, hprints, hread⟩ | ⟨hnone, fault, hread⟩
      · rw [hread]
        show Answers r _ (.list kind ns) (Client.listedItems (.obj fields))
        cases hitems : Client.listedItems (.obj fields) with
        | ok items => exact .listed ⟨fields, hprints, hitems⟩
        | error f =>
          obtain ⟨d, rfl⟩ := listedItems_error hitems
          refine .unusable rfl rfl ?_
          rintro ⟨items, fields', hprints', hitems'⟩
          obtain rfl := hprints.unique hprints'
          rw [hitems] at hitems'
          cases hitems'
      · rw [hread]
        refine .unusable rfl rfl ?_
        rintro ⟨items, fields, h, -⟩
        exact hnone fields h
  | delete kind name ns =>
    refine exchange_of_attempt hlimit (.delete kind name ns)
      ("Failed to delete " ++ kind.name ++ " " ++ name.shown) (fun _ ↦ .ok ()) rfl ?_ ?_ ?_
    · simp only [Client.handle, Client.delete, start_eq_opening hlimit hc.2, showing_ok hc.1,
        Client.execute]
    · exact fun o h ↦ h
    · exact fun r stdout stderr ↦ .deleted rfl

/-! ## Programs as sequences of exchanges -/

variable {α β : Type}

/-- A program makes some exchanges, each with the call that comes next after what the ones before it
came to, and ends with a value. -/
def Follows : Program α → List Exchange → α → Prop
  | .done value, exchanges, result => exchanges = [] ∧ result = value
  | .call c next, exchanges, result => ∃ e rest reply, exchanges = e :: rest ∧ e.call = c ∧
      Answers e.run e.last c reply ∧ Follows (next reply) rest result

/-- The exchanges of two programs in a row are those of the first and then those of the second. -/
theorem follows_bind {p : Program α} {f : α → Program β} {exchanges : List Exchange} {result : β}
    (h : Follows (p.bind f) exchanges result) :
    ∃ first others value, exchanges = first ++ others ∧ Follows p first value ∧
      Follows (f value) others result := by
  induction p generalizing exchanges with
  | done value => exact ⟨[], exchanges, value, rfl, ⟨rfl, rfl⟩, h⟩
  | call c next ih =>
    obtain ⟨e, rest, reply, rfl, hcall, hanswers, h⟩ := h
    obtain ⟨first, others, value, rfl, hfirst, hothers⟩ := ih reply h
    exact ⟨e :: first, others, value, rfl, ⟨e, first, reply, rfl, hcall, hanswers, hfirst⟩, hothers⟩

/-- Changing the value does not change the exchanges. -/
theorem follows_map {p : Program α} {f : α → β} {exchanges : List Exchange} {result : β}
    (h : Follows (p.map f) exchanges result) :
    ∃ value, result = f value ∧ Follows p exchanges value := by
  obtain ⟨first, others, value, rfl, hfirst, rfl, rfl⟩ := follows_bind h
  exact ⟨value, rfl, by rwa [List.append_nil]⟩

/-- A program that reads and deletes, while what is listed has a text, runs the commands of a
sequence of exchanges. -/
theorem exists_follows (hlimit : client.requestTimeout = .ok limit) {p : Program α}
    (hp : p.OnlyUnder Legible Placed) (s : Session) :
    ∃ exchanges, Follows p exchanges (p.run client.handle s).1 ∧
      Ran s (exchanges.flatMap Exchange.ended) (p.run client.handle s).2 ∧
      ∀ e ∈ exchanges, e.Made client := by
  induction p generalizing s with
  | done value => exact ⟨[], ⟨rfl, rfl⟩, .refl s, List.forall_mem_nil _⟩
  | call c next ih =>
    obtain ⟨e, hcall, hmade, hran, hanswers⟩ := exists_exchange hlimit hp.1 s
    obtain ⟨rest, hfollows, hran', hrest⟩ := ih _ (hp.2 _ hanswers.legible) (client.handle c s).2
    exact ⟨e :: rest, ⟨e, rest, _, rfl, hcall, hanswers, hfollows⟩, hran.trans hran',
      List.forall_mem_cons.mpr ⟨hmade, hrest⟩⟩

end TenantBroker.Kubectl
