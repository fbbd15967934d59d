import TenantBroker.Proofs.Broker.Frame
import TenantBroker.Proofs.Tenant.Accord

/-!
# Tenants that do not interfere

Any number of clients, each with an instance of its own, make their requests one after the other,
while their calls on one cluster alternate in any order. Calls may fail, and deletions may be held
back. Each client is answered as if it were alone, and the objects of its tenant are those that it
would have then, up to the numbers in generated names.
-/

namespace TenantBroker.Broker

open Cluster (Call Kind Program Store)
open Cluster.Program
open Cluster.Store (handle)
open Relation (ReflTransGen)
open Tenant (Foreign Shows Twin enduring_twin namespaceFor owned)

namespace Isolation

variable {config : Config} {ns instanceId username : String} {s t : Store}

/-! ## The answers to one request -/

/-- Two programs of a tenant that looks the same in two stores end alike, and it looks the same
afterwards. -/
abbrev EndsAlike (ns : String) (config : Config) {α : Type} (R : α → α → Prop)
    (p q : Action α) : Prop :=
  Agree handle (Foreign ns) (Twin ns config) (Twin ns config) (Twin ns config) R p q

/-- A check ends alike, and so does what follows it. -/
theorem alike_orFail {α β : Type} {R : β → β → Prop} {value : Except Failure α}
    {next : α → Action β} (h : ∀ a, value = .ok a → EndsAlike ns config R (next a) (next a)) :
    EndsAlike ns config R (orFail value next) (orFail value next) := by
  cases value with
  | ok a => exact h a rfl
  | error f => exact agree_error (enduring_twin ns config) f

/-- Provisions of a tenant end alike. -/
theorem alike_provision (hns : namespaceFor config.namespacePrefix instanceId = .ok ns)
    (username : String) (service plan parameters : Json) :
    EndsAlike ns config Eq (provision config instanceId username service plan parameters)
      (provision config instanceId username service plan parameters) := by
  have htwin := enduring_twin ns config
  refine alike_orFail fun _ _ ↦ ?_
  unfold provisionTenant
  split
  · exact agree_error htwin _
  · refine alike_orFail fun other hother ↦ ?_
    obtain rfl : ns = other := Except.ok.inj (hns.symm.trans (mapError_eq_ok_iff.mp hother))
    have hsteps := Tenant.agree_provisionSteps (Tenant.namespace_ne_empty hns) instanceId username
      config
    exact agree_map htwin htwin hsteps (fun _ _ _ ↦ ⟨_, _, rfl, rfl, rfl⟩)
      fun f ↦ ⟨.ofPipeline f, rfl, rfl⟩

/-- Deprovisions of a tenant end alike. -/
theorem alike_deprovision (hns : namespaceFor config.namespacePrefix instanceId = .ok ns) :
    EndsAlike ns config Eq (deprovision config instanceId) (deprovision config instanceId) := by
  have htwin := enduring_twin ns config
  refine alike_orFail fun other hother ↦ ?_
  obtain rfl : ns = other := Except.ok.inj (hns.symm.trans (mapError_eq_ok_iff.mp hother))
  exact agree_map htwin htwin (Tenant.agree_deprovisionSteps ns instanceId config)
    (fun _ _ _ ↦ ⟨_, _, rfl, rfl, rfl⟩) fun f ↦ ⟨.ofPipeline f, rfl, rfl⟩

/-- Two records of which both are complete or neither is. -/
def SameProgress (record record' : Tenant.Record) : Prop := isComplete record = isComplete record'

/-- The record of a tenant is there in both stores or in neither, and complete in both or in
neither. -/
theorem alike_findRecord (ns : String) (config : Config) :
    EndsAlike ns config (Option.Rel SameProgress) (findRecord ns) (findRecord ns) := by
  have htwin := enduring_twin ns config
  refine agree_call htwin ?_
  rintro s t ⟨parts, h⟩
  have hafter : Twin ns config (handle (.list Kind.developments (.str ns)) s).2
      (handle (.list Kind.developments (.str ns)) t).2 := by
    simp only [handle, Cluster.Store.list_snd]
    exact ⟨parts, h.logged _ _ _ _⟩
  have hsole : Kind.developments ∈ Tenant.soleKinds := by decide
  rcases h.list hsole rfl with ⟨f, hf, hf'⟩ | ⟨hnone, hnone'⟩ |
    ⟨part, hpart, o, -, o', -, hone, hone', hkind, hmade, hmade'⟩
  · simp only [handle, hf, hf']
    split
    · exact agree_ok htwin .none _ _ hafter
    · exact agree_error htwin _ _ _ hafter
  · simp only [handle, hnone, hnone']
    exact agree_ok htwin .none _ _ hafter
  · obtain ⟨username, hknown⟩ := h.left.known part hpart
    obtain rfl := Tenant.eq_development hknown hkind
    obtain ⟨record, hrecord, hphase⟩ := (Tenant.hasPhase_of_made hmade).read
    obtain ⟨record', hrecord', hphase'⟩ := (Tenant.hasPhase_of_made hmade').read
    have hsame : SameProgress record record' := by
      unfold SameProgress isComplete
      rw [hphase, hphase']
    simp only [handle, hone, hone', hrecord, hrecord']
    exact agree_ok htwin (.some hsame) _ _ hafter

/-- The record that a tenant has to have is missing in both stores, or complete in both or in
neither. -/
theorem alike_requireRecord (ns instanceId : String) (config : Config) :
    EndsAlike ns config SameProgress (requireRecord instanceId ns)
      (requireRecord instanceId ns) := by
  have htwin := enduring_twin ns config
  refine agree_andThen htwin (alike_findRecord ns config) fun a b hab ↦ ?_
  cases hab with
  | none => exact agree_error htwin _
  | some hsame => exact agree_ok htwin hsame

/-- Questions after the state of a tenant are answered alike. -/
theorem alike_lastOperation (hns : namespaceFor config.namespacePrefix instanceId = .ok ns)
    (operation : String) :
    EndsAlike ns config Eq (lastOperation config instanceId operation)
      (lastOperation config instanceId operation) := by
  have htwin := enduring_twin ns config
  refine alike_orFail fun other hother ↦ ?_
  obtain rfl : ns = other := Except.ok.inj (hns.symm.trans (mapError_eq_ok_iff.mp hother))
  have hrecord := alike_requireRecord ns instanceId config
  split
  · refine agree_andThen htwin hrecord fun record record' hsame ↦ ?_
    rw [show isComplete record = isComplete record' from hsame]
    exact agree_ok htwin rfl
  · split
    · refine agree_call htwin ?_
      rintro s t ⟨parts, h⟩
      have hafter : Twin ns config (handle (.get Kind.namespaces (.str ns) .null) s).2
          (handle (.get Kind.namespaces (.str ns) .null) t).2 := by
        simp only [handle, Cluster.Store.get_snd]
        exact ⟨parts, h.logged _ _ _ _⟩
      rcases h.get_namespace with ⟨f, hf, hf'⟩ | ⟨object, object', hobject, hobject'⟩
      · simp only [handle, hf, hf']
        split
        · exact agree_ok htwin rfl _ _ hafter
        · exact agree_error htwin _ _ _ hafter
      · simp only [handle, hobject, hobject']
        exact agree_ok htwin rfl _ _ hafter
    · exact agree_andThen htwin hrecord fun _ _ _ ↦ agree_ok htwin rfl

/-! ## The answers to many requests -/

/-- Two programs of a tenant that looks the same in two stores give the same value, and the tenant
looks the same afterwards. -/
def GivesSame (ns : String) (config : Config) {α : Type} (p q : Program α) : Prop :=
  ∀ s t, Twin ns config s t →
    Mirrors handle (Foreign ns) (fun a b s' t' ↦ a = b ∧ Twin ns config s' t') p q s t

/-- Giving a value is giving the same. -/
theorem givesSame_done {α : Type} (value : α) :
    GivesSame ns config (.done value) (.done value) := fun _ _ h ↦
  mirrors_done fun _ hs' ↦ ⟨rfl, (enduring_twin ns config).many hs' h⟩

/-- Programs give the same one after the other. -/
theorem givesSame_bind {α β : Type} {p : Program α} {f : α → Program β}
    (hp : GivesSame ns config p p) (hf : ∀ a, GivesSame ns config (f a) (f a)) :
    GivesSame ns config (p.bind f) (p.bind f) := by
  refine fun s t h ↦ (hp s t h).bind ?_
  rintro a _ s' t' ⟨rfl, h'⟩
  exact hf a s' t' h'

/-- An action that ends alike gives the same. -/
theorem EndsAlike.givesSame {α : Type} {p : Action α} (h : EndsAlike ns config Eq p p) :
    GivesSame ns config p p := by
  refine fun s t hs ↦ Safe.mono (h s t hs) fun outcome s' _ hend ↦ ?_
  generalize (p.run handle t).1 = outcome' at hend
  cases hend with
  | ok hR hB => exact ⟨congrArg Except.ok hR, hB⟩
  | error e hC => exact ⟨rfl, hC⟩

/-- Requests on a tenant are answered the same. -/
theorem givesSame_program (r : Request)
    (hns : namespaceFor config.namespacePrefix r.instanceId = .ok ns) :
    GivesSame ns config (r.program config) (r.program config) := by
  cases r with
  | provision instanceId username service plan parameters =>
    exact givesSame_bind (alike_provision hns username service plan parameters).givesSame
      fun _ ↦ givesSame_done _
  | deprovision instanceId =>
    exact givesSame_bind (alike_deprovision hns).givesSame fun _ ↦ givesSame_done _
  | lastOperation instanceId operation =>
    exact givesSame_bind (alike_lastOperation hns operation).givesSame fun _ ↦ givesSame_done _

/-- Requests that are made one after the other, with their answers. -/
def inTurn (config : Config) : List Request → Program (List Answer)
  | [] => .done []
  | r :: rest => (r.program config).bind fun answer ↦ (inTurn config rest).map (answer :: ·)

/-- Requests on a tenant are answered the same one after the other. -/
theorem givesSame_inTurn {requests : List Request}
    (h : ∀ r ∈ requests, namespaceFor config.namespacePrefix r.instanceId = .ok ns) :
    GivesSame ns config (inTurn config requests) (inTurn config requests) := by
  induction requests with
  | nil => exact givesSame_done _
  | cons r rest ih =>
    refine givesSame_bind (givesSame_program r (h r List.mem_cons_self)) fun answer ↦ ?_
    exact givesSame_bind (ih fun other hother ↦ h other (List.mem_cons_of_mem _ hother))
      fun _ ↦ givesSame_done _

/-- Requests of one sort make calls of this sort one after the other. -/
theorem only_inTurn {P : Call → Prop} {requests : List Request}
    (h : ∀ r ∈ requests, (r.program config).Only P) : (inTurn config requests).Only P := by
  induction requests with
  | nil => exact only_done _
  | cons r rest ih =>
    exact only_bind (h r List.mem_cons_self) fun _ ↦
      only_map (ih fun other hother ↦ h other (List.mem_cons_of_mem _ hother))

/-! ## Clients that take turns -/

/-- A client with an instance of its own, and the requests that it makes. -/
structure Client (config : Config) where
  instanceId : String
  ns : String
  valid : namespaceFor config.namespacePrefix instanceId = .ok ns
  requests : List Request
  own : ∀ r ∈ requests, r.instanceId = instanceId

namespace Client

variable (client : Client config)

/-- The requests of a client, one after the other. -/
def program : Program (List Answer) := inTurn config client.requests

/-- The requests of a client are about its tenant. -/
theorem valid_of_mem {r : Request} (h : r ∈ client.requests) :
    namespaceFor config.namespacePrefix r.instanceId = .ok client.ns := by
  rw [client.own r h]
  exact client.valid

/-- Clients with two instances have two tenants. -/
theorem ns_ne {other : Client config} (h : client.instanceId ≠ other.instanceId) :
    client.ns ≠ other.ns := fun hsame ↦
  h (Tenant.instance_unique client.valid (hsame ▸ other.valid))

end Client

/-- The cluster, and what is left of the requests of each client. -/
structure State where
  store : Store
  sessions : List (Program (List Answer))

/-- One of the clients makes its next call. -/
inductive Step : State → State → Prop
  | turn {s : State} (i : Nat) {c : Call}
      {next : Except Cluster.Failure c.Reply → Program (List Answer)}
      (h : s.sessions[i]? = some (.call c next)) :
      Step s ⟨(handle c s.store).2, s.sessions.set i (next (handle c s.store).1)⟩

/-- An empty cluster on which calls have been made to fail and deletions may be held back. -/
def vacant (failures : List ((Cluster.Action × String) × Cluster.Failure)) (holding : Bool) :
    Store :=
  { Store.empty with failures, holding }

/-- Every tenant looks the same in an empty cluster and itself. -/
theorem twin_vacant (ns : String) (config : Config)
    (failures : List ((Cluster.Action × String) × Cluster.Failure)) (holding : Bool) :
    Twin ns config (vacant failures holding) (vacant failures holding) := by
  have hshows : Shows ns config [] (vacant failures holding) :=
    ⟨Cluster.Store.housed_empty, Cluster.Store.labelled_empty, .nil, (fun _ h ↦ nomatch h), .nil⟩
  exact ⟨[], hshows, hshows, rfl, rfl, Iff.rfl⟩

/-- What is left of the requests of a client concerns its tenant, and whatever calls other clients
make in between, it ends as it would if the client had been alone from the start. -/
structure Isolated (client : Client config) (start : Store) (p : Program (List Answer))
    (s : Store) : Prop where
  concerns : p.Only (Tenant.Concerns client.ns)
  orderly : p.Only Call.Orderly
  safe : p.Safe handle (Foreign client.ns) (fun _ ↦ True) (fun answers s' ↦
    answers = (client.program.run handle start).1 ∧
      Twin client.ns config s' (client.program.run handle start).2) s

/-- A client is isolated from the start. -/
theorem Client.isolated (client : Client config) {start : Store}
    (h : Twin client.ns config start start) : Isolated client start client.program start where
  concerns := only_inTurn fun r hr ↦ concerns_program r (client.valid_of_mem hr)
  orderly := only_inTurn fun r _ ↦ orderly_program config r
  safe := givesSame_inTurn (fun _ hr ↦ client.valid_of_mem hr) start start h

/-- All clients are isolated. -/
structure AllIsolated (clients : List (Client config)) (start : Store) (s : State) : Prop where
  length : s.sessions.length = clients.length
  isolated : ∀ (i : Nat) client p, clients[i]? = some client → s.sessions[i]? = some p →
    Isolated client start p s.store

/-- All clients remain isolated step by step. -/
theorem AllIsolated.step {clients : List (Client config)} {start : Store} {s t : State}
    (hapart : (clients.map Client.instanceId).Nodup)
    (h : AllIsolated clients start s) (hstep : Step s t) : AllIsolated clients start t := by
  cases hstep with
  | @turn i c next hi =>
    have hbound := (List.getElem?_eq_some_iff.mp hi).1
    obtain ⟨owner, howner⟩ : ∃ owner, clients[i]? = some owner :=
      ⟨_, List.getElem?_eq_getElem (h.length ▸ hbound)⟩
    obtain ⟨hconcerns, horderly, hsafe⟩ := h.isolated i owner _ howner hi
    refine ⟨by rw [List.length_set]; exact h.length, fun j client p hclient hp ↦ ?_⟩
    by_cases hij : i = j
    · subst hij
      rw [List.getElem?_set_self hbound] at hp
      obtain rfl := Option.some.inj hp
      obtain rfl : owner = client := Option.some.inj (howner.symm.trans hclient)
      exact ⟨hconcerns.2 _, horderly.2 _, hsafe.next⟩
    · rw [List.getElem?_set_ne hij] at hp
      have hother := h.isolated j client p hclient hp
      have hne : owner.ns ≠ client.ns := by
        refine owner.ns_ne fun hsame ↦ hij ?_
        have hbound' : i < (clients.map Client.instanceId).length := by
          rw [List.length_map, ← h.length]
          exact hbound
        refine (List.getElem?_inj hbound' hapart).mp ?_
        rw [List.getElem?_map, List.getElem?_map, howner, hclient]
        exact congrArg some hsame
      exact ⟨hother.concerns, hother.orderly,
        hother.safe.between ⟨c, owner.ns, hne, horderly.1, hconcerns.1, rfl⟩⟩

/-- All clients remain isolated whatever turns they take. -/
theorem allIsolated {clients : List (Client config)}
    (hapart : (clients.map Client.instanceId).Nodup)
    (failures : List ((Cluster.Action × String) × Cluster.Failure)) (holding : Bool) {s : State}
    (hs : ReflTransGen Step ⟨vacant failures holding, clients.map Client.program⟩ s) :
    AllIsolated clients (vacant failures holding) s := by
  induction hs with
  | refl =>
    refine ⟨List.length_map _, fun j other p hother hp ↦ ?_⟩
    rw [List.getElem?_map, hother] at hp
    obtain rfl := Option.some.inj hp
    exact other.isolated (twin_vacant other.ns config failures holding)
  | tail _ hstep ih => exact ih.step hapart hstep

/-- Each client with an instance of its own that has come to its end has been given the answers that
it would have been given alone, on an empty cluster with the same failures and the same hold, and
the objects of its tenant are the same as then, up to the numbers in generated names. -/
theorem as_if_alone {clients : List (Client config)}
    (hapart : (clients.map Client.instanceId).Nodup)
    (failures : List ((Cluster.Action × String) × Cluster.Failure)) (holding : Bool) {s : State}
    (hs : ReflTransGen Step ⟨vacant failures holding, clients.map Client.program⟩ s) {i : Nat}
    {client : Client config} {answers : List Answer} (hclient : clients[i]? = some client)
    (hended : s.sessions[i]? = some (.done answers)) :
    let alone := client.program.run handle (vacant failures holding)
    answers = alone.1 ∧
      List.Forall₂ (Tenant.SameButNumber client.ns) (owned client.ns s.store)
        (owned client.ns alone.2) := by
  have h := allIsolated hapart failures holding hs
  obtain ⟨hanswers, parts, htwins⟩ := (h.isolated i client _ hclient hended).safe.post
  exact ⟨hanswers, htwins.objects⟩

/-- Every client can be brought to its end. -/
theorem exists_answered {start s : State} (hs : ReflTransGen Step start s) {i : Nat}
    {p : Program (List Answer)} (hp : s.sessions[i]? = some p) :
    ∃ t answers, ReflTransGen Step start ⟨t, s.sessions.set i (.done answers)⟩ := by
  induction p generalizing s with
  | done answers =>
    refine ⟨s.store, answers, ?_⟩
    obtain ⟨hlength, hsame⟩ := List.getElem?_eq_some_iff.mp hp
    rw [← hsame, List.set_getElem_self]
    exact hs
  | call c next ih =>
    have hlength := (List.getElem?_eq_some_iff.mp hp).1
    obtain ⟨t, answers, hrest⟩ := ih _ (hs.tail (.turn i hp)) (List.getElem?_set_self hlength)
    rw [List.set_set] at hrest
    exact ⟨t, answers, hrest⟩

/-- Two clients on a cluster that holds deletions back and in which no user record can be listed.
The second provision runs through after the first call of the first one, so it takes the first
numbers. -/
theorem as_if_alone_of_two :
    ∃ (first second : Client {}) (s : State) (answers answers' : List Answer),
      first.requests = [.provision "a" "u" .null .null .null, .lastOperation "a" "deploy",
        .deprovision "a", .provision "a" "u" .null .null .null] ∧
      second.requests = [.provision "b" "v" .null .null .null] ∧
      s.sessions = [.done answers, .done answers'] ∧
      answers = (first.program.run handle
        (vacant [((.list, Kind.users.name), .defect .aborted)] true)).1 ∧
      List.Forall₂ (Tenant.SameButNumber "rhpam-a") (owned "rhpam-a" s.store)
        (owned "rhpam-a" (first.program.run handle
          (vacant [((.list, Kind.users.name), .defect .aborted)] true)).2) := by
  let first : Client {} := {
    instanceId := "a"
    ns := "rhpam-a"
    valid := rfl
    requests := [.provision "a" "u" .null .null .null, .lastOperation "a" "deploy",
      .deprovision "a", .provision "a" "u" .null .null .null]
    own := by simp [Request.instanceId] }
  let second : Client {} := {
    instanceId := "b"
    ns := "rhpam-b"
    valid := rfl
    requests := [.provision "b" "v" .null .null .null]
    own := by simp [Request.instanceId] }
  have hbegun : ReflTransGen Step ⟨vacant [((.list, Kind.users.name), .defect .aborted)] true,
      [first, second].map Client.program⟩ _ := .tail .refl (.turn 0 rfl)
  obtain ⟨t, answers', hsecond⟩ := exists_answered hbegun (i := 1) rfl
  obtain ⟨u, answers, hboth⟩ := exists_answered hsecond (i := 0) rfl
  obtain ⟨hanswers, hobjects⟩ := as_if_alone (by decide) _ _ hboth (i := 0) rfl rfl
  exact ⟨first, second, _, answers, answers', rfl, rfl, rfl, hanswers, hobjects⟩

end Isolation

end TenantBroker.Broker
