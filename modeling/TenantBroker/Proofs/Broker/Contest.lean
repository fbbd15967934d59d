import TenantBroker.Proofs.Broker.Interleaving
import TenantBroker.Proofs.Broker.Lifecycle

/-!
# Provisions that compete

Any number of provisions of one instance run at once, together with requests on other instances and
questions after the state of any. The namespace decides: it is created first, only one provision can
create it, and it does not go away. So one provision makes the whole tenant for its user, and all
others fail on their first call and change no object.
-/

namespace TenantBroker.Broker

open Cluster (Call Event Kind Program Store namespaceKey)
open Cluster.Program
open Cluster.Store (handle)
open Relation (ReflTransGen)
open Tenant (Aside Composed Made Occupied manifests namespaceFor owned)

namespace Contest

/-! ## The contest -/

/-- A call that was made, and the store on which it was made. -/
structure Turn where
  call : Call
  before : Store

/-- A request, what is left of its program, and the calls that it has made. -/
structure Party where
  request : Request
  program : Program Answer
  turns : List Turn

/-- The cluster and the parties. -/
structure State where
  store : Store
  parties : List Party

/-- What may be asked during the contest for an instance: provisions of it that are accepted,
everything about other instances, and the state of any. -/
def Admissible (instanceId : String) : Request → Prop
  | .provision other username service plan parameters =>
    other = instanceId → (Request.provision other username service plan parameters).Accepted
  | .deprovision other => other ≠ instanceId
  | .lastOperation _ _ => True

/-- What may happen during the contest for a namespace: no failure is injected, and nothing happens
in the namespace. -/
def Spares (ns : String) : Event → Prop
  | .fail _ _ _ => False
  | .clearFailures | .hold _ => True
  | .finish other | .setPhase _ other _ => other ≠ ns

/-- A party joins in, one of them makes its next call, or an event happens. -/
inductive Step (config : Config) (instanceId ns : String) : State → State → Prop
  | join {s : State} (r : Request) (h : Admissible instanceId r) :
      Step config instanceId ns s ⟨s.store, s.parties ++ [⟨r, r.program config, []⟩]⟩
  | turn {s : State} (i : Nat) {p : Party} {c : Call}
      {next : Except Cluster.Failure c.Reply → Program Answer} (hp : s.parties[i]? = some p)
      (hnext : p.program = .call c next) :
      Step config instanceId ns s ⟨(handle c s.store).2,
        s.parties.set i ⟨p.request, next (handle c s.store).1, p.turns ++ [⟨c, s.store⟩]⟩⟩
  | event {s : State} (e : Event) (h : Spares ns e) :
      Step config instanceId ns s ⟨e.apply s.store, s.parties⟩

namespace Party

/-- The party asks for a provision of the instance. -/
def Competes (instanceId : String) (p : Party) : Prop :=
  ∃ username service plan parameters,
    p.request = .provision instanceId username service plan parameters

/-- The first call of the party has succeeded. -/
def Passed (p : Party) : Prop :=
  ∃ turn ∈ p.turns.head?, ∃ value, (handle turn.call turn.before).1 = .ok value

/-- The party has come to its end. -/
def Ended (p : Party) : Prop := ∃ answer, p.program = .done answer

/-- The party has failed with a conflict over the namespace on its only call, which changed no
object. -/
def LostOver (instanceId : String) (p : Party) : Prop :=
  ∃ f turn, p.program = .done (.provisioned (.error (.step f))) ∧ p.turns = [turn] ∧
    (handle turn.call turn.before).2.objects = turn.before.objects ∧
    (∃ failure, (handle turn.call turn.before).1 = .error failure) ∧
    f.kind = Kind.namespaces.name ∧ f.action = .create ∧ f.isConflict = true ∧
    f.instanceId = instanceId

end Party

variable {config : Config} {instanceId ns : String} {p : Party}

/-! ## What a provision of the instance comes to -/

/-- What the winner is given, and what the tenant is composed of then. -/
def Won (config : Config) (ns username : String) (answer : Answer) (t : Store) : Prop :=
  answer = .provisioned (.ok ⟨deployOperation, Tenant.dashboardUrl ns config.routeSuffix, ns⟩) ∧
    Composed ns (manifests ns username config config.variant) t

/-- A provision that is accepted begins with the creation of the namespace. Where the namespace is
taken this ends it, and where nothing of the tenant is there it goes on to make the whole tenant,
whatever happens aside from it. -/
theorem program_provision (hns : namespaceFor config.namespacePrefix instanceId = .ok ns)
    {username : String} {service plan parameters : Json}
    (haccepted : (Request.provision instanceId username service plan parameters).Accepted) :
    ∃ next, (Request.provision instanceId username service plan parameters).program config =
        .call (.create Kind.namespaces (Tenant.tenantNamespace ns)) next ∧
      (∀ s, Occupied ns s → ∃ f log,
        s.create Kind.namespaces (Tenant.tenantNamespace ns) =
          (.error f, s.noted s.generated log) ∧
        next (.error f) = .done (.provisioned (.error (.step (Tenant.conflict instanceId ns))))) ∧
      ∀ s, Composed ns [] s →
        (∃ object, (s.create Kind.namespaces (Tenant.tenantNamespace ns)).1 = .ok object) ∧
        (next (s.create Kind.namespaces (Tenant.tenantNamespace ns)).1).Safe handle (Aside ns)
          (Occupied ns) (Won config ns username)
          (s.create Kind.namespaces (Tenant.tenantNamespace ns)).2 := by
  have hne := Tenant.namespace_ne_empty hns
  obtain ⟨next, hnext, hfailed, -⟩ := Tenant.runPipeline_provisionSteps hne instanceId username
    config config.variant
  have hprogram : (Request.provision instanceId username service plan parameters).program config =
      ((Pipeline.runPipeline instanceId
        (Tenant.provisionSteps ns username config config.variant)).map _).map _ :=
    congrArg (Program.map Answer.provisioned) (provision_eq hns haccepted.1 haccepted.2)
  rw [hnext] at hprogram
  refine ⟨_, hprogram, fun s hs ↦ ?_, fun s hs ↦ ?_⟩
  · obtain ⟨log, hcreate⟩ := hs.create hne
    refine ⟨_, log, hcreate, ?_⟩
    simp only [hfailed]
    rfl
  · obtain ⟨hreply, hsafe⟩ := hs.safe_provisionSteps hne hnext
    refine ⟨hreply, Safe.map (Safe.map (hsafe.mono ?_))⟩
    rintro outcome t - ⟨⟨outcomes, rfl⟩, ht⟩
    exact ⟨rfl, ht⟩

/-! ## What the parties have come to -/

/-- A call after which a tenant is as before. -/
def Beside (ns : String) (c : Call) : Prop := ∀ s, Aside ns s (handle c s).2

/-- The party asks for a provision that is accepted, and has not made a call yet. -/
structure Waits (config : Config) (instanceId : String) (p : Party) : Prop where
  competes : p.Competes instanceId
  accepted : p.request.Accepted
  program : p.program = p.request.program config
  turns : p.turns = []

/-- The party asks for something else, and does not touch the tenant. -/
structure Bystands (instanceId ns : String) (p : Party) : Prop where
  apart : ¬ p.Competes instanceId
  beside : p.program.Only (Beside ns)

/-- The party has created the namespace, and will make the whole tenant for its user. -/
structure Wins (config : Config) (instanceId ns : String) (p : Party) (s : Store) : Prop where
  passed : p.Passed
  safe : ∃ username service plan parameters,
    p.request = .provision instanceId username service plan parameters ∧
      p.program.Safe handle (Aside ns) (Occupied ns) (Won config ns username) s

/-- A call leaves a tenant as it was if it concerns another one or only looks. -/
theorem beside_of_concerns {other : String} {c : Call} (h : Tenant.Concerns other c)
    (hne : ns ≠ other) : Beside ns c := fun s ↦
  ⟨(Tenant.confined_handle h s).untouched hne,
    fun hf ↦ (Cluster.Store.handle_settings c s).1.trans hf⟩

/-- A party that joins in waits or stands by. -/
theorem waits_or_bystands (hns : namespaceFor config.namespacePrefix instanceId = .ok ns)
    {r : Request} (h : Admissible instanceId r) :
    Waits config instanceId ⟨r, r.program config, []⟩ ∨
      Bystands instanceId ns ⟨r, r.program config, []⟩ := by
  by_cases hcompetes : Party.Competes instanceId ⟨r, r.program config, []⟩
  · obtain ⟨username, service, plan, parameters, rfl⟩ := hcompetes
    exact .inl ⟨⟨username, service, plan, parameters, rfl⟩, h rfl, rfl, rfl⟩
  · refine .inr ⟨hcompetes, ?_⟩
    have hget (kind : Kind) (name place : Json) : Beside ns (.get kind name place) := fun s ↦ by
      rw [Cluster.Store.handle, Cluster.Store.get_snd]
      exact ⟨⟨rfl, Iff.rfl⟩, id⟩
    have hlist (kind : Kind) (place : Json) : Beside ns (.list kind place) := fun s ↦ by
      rw [Cluster.Store.handle, Cluster.Store.list_snd]
      exact ⟨⟨rfl, Iff.rfl⟩, id⟩
    -- Only questions after the state may be about the instance itself.
    by_cases hother : r.instanceId = instanceId
    · cases r with
      | provision i username service plan parameters =>
        exact absurd ⟨username, service, plan, parameters, hother ▸ rfl⟩ hcompetes
      | deprovision i => exact absurd hother h
      | lastOperation i operation => exact only_map (only_lastOperation hget hlist i operation)
    · cases hvalid : namespaceFor config.namespacePrefix r.instanceId with
      | error fault =>
        obtain ⟨answer, hdone⟩ := program_of_invalid r hvalid
        simp only [hdone]
        exact only_done answer
      | ok other =>
        have hne : ns ≠ other := fun hsame ↦
          hother (Tenant.instance_unique hvalid (hsame ▸ hns))
        exact only_mono (fun c hc ↦ beside_of_concerns hc hne) (concerns_program r hvalid)

/-! ## One turn -/

/-- The party after a turn. -/
def Party.after (p : Party) (s : Store) (c : Call)
    (next : Except Cluster.Failure c.Reply → Program Answer) : Party :=
  ⟨p.request, next (handle c s).1, p.turns ++ [⟨c, s⟩]⟩

section Turn

variable {s : Store} {c : Call} {next : Except Cluster.Failure c.Reply → Program Answer}

/-- A party that stands by goes on doing so, and it leaves the tenant as it was. -/
theorem Bystands.turn (h : Bystands instanceId ns p) (hnext : p.program = .call c next) :
    Aside ns s (handle c s).2 ∧ Bystands instanceId ns (p.after s c next) := by
  have honly := h.beside
  rw [hnext] at honly
  exact ⟨honly.1 s, h.apart, honly.2 _⟩

/-- The first call of a party that has waited. Where the namespace is taken it fails, and this ends
the party, and where nothing of the tenant is there it succeeds, and the party goes on to win. -/
theorem Waits.first_call (h : Waits config instanceId p)
    (hns : namespaceFor config.namespacePrefix instanceId = .ok ns)
    (hnext : p.program = .call c next) :
    (∀ s, Occupied ns s → ∃ f log, handle c s = (.error f, s.noted s.generated log) ∧
      next (.error f) = .done (.provisioned (.error (.step (Tenant.conflict instanceId ns))))) ∧
    ∃ username service plan parameters,
      p.request = .provision instanceId username service plan parameters ∧
      ∀ s, Composed ns [] s → (∃ value, (handle c s).1 = .ok value) ∧
        (next (handle c s).1).Safe handle (Aside ns) (Occupied ns) (Won config ns username)
          (handle c s).2 := by
  obtain ⟨⟨username, service, plan, parameters, hrequest⟩, haccepted, hprogram, -⟩ := h
  rw [hrequest] at haccepted hprogram
  obtain ⟨next', hfirst, hoccupied, hvacant⟩ := program_provision hns haccepted
  have hsame := hnext.symm.trans (hprogram.trans hfirst)
  obtain ⟨rfl, hsame⟩ := Program.call.inj hsame
  obtain rfl := eq_of_heq hsame
  exact ⟨hoccupied, username, service, plan, parameters, hrequest, hvacant⟩

/-- Where the namespace is taken a party that has waited loses, and it leaves the tenant as it was.
-/
theorem Waits.lose (h : Waits config instanceId p)
    (hns : namespaceFor config.namespacePrefix instanceId = .ok ns) (hs : Occupied ns s)
    (hnext : p.program = .call c next) :
    Aside ns s (handle c s).2 ∧ (p.after s c next).LostOver instanceId := by
  obtain ⟨f, log, hcall, hdone⟩ := (h.first_call hns hnext).1 s hs
  refine ⟨by rw [hcall]; exact ⟨⟨rfl, Iff.rfl⟩, id⟩, Tenant.conflict instanceId ns, ⟨c, s⟩,
    ?_, ?_, ?_, ⟨f, by simp only [hcall]⟩, rfl, rfl, rfl, rfl⟩
  · simp only [Party.after, hcall, hdone]
  · simp only [Party.after, h.turns, List.nil_append]
  · simp only [hcall, Cluster.Store.objects_noted]

/-- Where nothing of the tenant is there a party that has waited wins. -/
theorem Waits.win (h : Waits config instanceId p)
    (hns : namespaceFor config.namespacePrefix instanceId = .ok ns) (hs : Composed ns [] s)
    (hnext : p.program = .call c next) :
    Wins config instanceId ns (p.after s c next) (handle c s).2 := by
  obtain ⟨-, username, service, plan, parameters, hrequest, hvacant⟩ := h.first_call hns hnext
  obtain ⟨hreply, hsafe⟩ := hvacant s hs
  refine ⟨⟨⟨c, s⟩, ?_, hreply⟩, username, service, plan, parameters, hrequest, hsafe⟩
  simp only [Party.after, h.turns, List.nil_append, List.head?_cons]
  rfl

/-- The winner goes on to win. -/
theorem Wins.turn (h : Wins config instanceId ns p s) (hnext : p.program = .call c next) :
    Wins config instanceId ns (p.after s c next) (handle c s).2 := by
  obtain ⟨⟨first, hfirst, hreply⟩, username, service, plan, parameters, hrequest, hsafe⟩ := h
  rw [hnext] at hsafe
  refine ⟨⟨first, ?_, hreply⟩, username, service, plan, parameters, hrequest, hsafe.next⟩
  simp only [Party.after, List.head?_append, Option.mem_def.mp hfirst]
  rfl

/-- Nothing that happens aside from the tenant keeps the winner from winning. -/
theorem Wins.aside {t : Store} (h : Wins config instanceId ns p s) (haside : Aside ns s t) :
    Wins config instanceId ns p t := by
  obtain ⟨hpassed, username, service, plan, parameters, hrequest, hsafe⟩ := h
  exact ⟨hpassed, username, service, plan, parameters, hrequest, hsafe.between haside⟩

/-- While a party wins the namespace is taken. -/
theorem Wins.occupied (h : Wins config instanceId ns p s) : Occupied ns s := by
  obtain ⟨-, username, service, plan, parameters, -, hsafe⟩ := h
  exact hsafe.invariant

end Turn

/-- An event that spares a namespace happens aside from its tenant. -/
theorem Spares.aside {e : Event} (h : Spares ns e) (s : Store) : Aside ns s (e.apply s) := by
  cases e with
  | fail action kind failure => exact h.elim
  | clearFailures => exact ⟨⟨rfl, Iff.rfl⟩, fun _ ↦ rfl⟩
  | hold value => exact ⟨⟨rfl, Iff.rfl⟩, id⟩
  | finish other => exact ⟨(Tenant.confined_finish other s).untouched (Ne.symm h), id⟩
  | setPhase kind other phase =>
    exact ⟨(Tenant.confined_setPhase other kind phase s).untouched (Ne.symm h), id⟩

/-! ## Every state of a contest -/

/-- Nobody has created the namespace yet, or one party has, and of all others none will. -/
inductive Decision (config : Config) (instanceId ns : String) (s : State) : Prop
  | pending (h : Composed ns [] s.store)
      (hparties : ∀ (i : Nat) p, s.parties[i]? = some p →
        Waits config instanceId p ∨ Bystands instanceId ns p)
  | decided (first : Nat) (winner : Party) (hfirst : s.parties[first]? = some winner)
      (hwins : Wins config instanceId ns winner s.store)
      (hothers : ∀ (i : Nat) p, i ≠ first → s.parties[i]? = some p →
        Waits config instanceId p ∨ Bystands instanceId ns p ∨ p.LostOver instanceId)

private theorem getElem?_concat {α : Type} {l : List α} {a b : α} {i : Nat}
    (h : (l ++ [a])[i]? = some b) : l[i]? = some b ∨ i = l.length ∧ b = a := by
  rw [List.getElem?_append] at h
  split at h
  · exact .inl h
  · rw [List.getElem?_singleton] at h
    split at h
    · exact .inr ⟨by omega, (Option.some.inj h).symm⟩
    · cases h

private theorem getElem?_set_cases {α : Type} {l : List α} {a b : α} {i j : Nat}
    (h : (l.set i a)[j]? = some b) : j = i ∧ b = a ∨ j ≠ i ∧ l[j]? = some b := by
  rw [List.getElem?_set] at h
  split at h
  · next hij =>
    split at h
    · exact .inl ⟨hij.symm, (Option.some.inj h).symm⟩
    · cases h
  · next hij => exact .inr ⟨Ne.symm hij, h⟩

/-- Whatever happens aside from the tenant decides nothing. -/
theorem Decision.aside {s : State} (h : Decision config instanceId ns s) {t : Store}
    (haside : Aside ns s.store t) : Decision config instanceId ns ⟨t, s.parties⟩ := by
  cases h with
  | pending hs hparties => exact .pending (Tenant.stable_composed ns [] haside hs) hparties
  | decided first winner hfirst hwins hothers =>
    exact .decided first winner hfirst (hwins.aside haside) hothers

/-- A party that joins in decides nothing. -/
theorem Decision.join {s : State} (h : Decision config instanceId ns s) {p : Party}
    (hp : Waits config instanceId p ∨ Bystands instanceId ns p) :
    Decision config instanceId ns ⟨s.store, s.parties ++ [p]⟩ := by
  cases h with
  | pending hs hparties =>
    refine .pending hs fun i q hq ↦ ?_
    rcases getElem?_concat hq with hold | ⟨-, rfl⟩
    · exact hparties i q hold
    · exact hp
  | decided first winner hfirst hwins hothers =>
    have hlength : first < s.parties.length := (List.getElem?_eq_some_iff.mp hfirst).1
    refine .decided first winner ?_ hwins fun i q hi hq ↦ ?_
    · rw [List.getElem?_append_left hlength]
      exact hfirst
    · rcases getElem?_concat hq with hold | ⟨-, rfl⟩
      · exact hothers i q hi hold
      · exact hp.imp_right .inl

/-- A turn decides the contest or leaves the decision as it is. -/
theorem Decision.turn {s : State} (h : Decision config instanceId ns s)
    (hns : namespaceFor config.namespacePrefix instanceId = .ok ns) {i : Nat} {p : Party} {c : Call}
    {next : Except Cluster.Failure c.Reply → Program Answer} (hp : s.parties[i]? = some p)
    (hnext : p.program = .call c next) :
    Decision config instanceId ns
      ⟨(handle c s.store).2, s.parties.set i (p.after s.store c next)⟩ := by
  have hlength : i < s.parties.length := (List.getElem?_eq_some_iff.mp hp).1
  cases h with
  | pending hs hparties =>
    rcases hparties i p hp with hwaits | hbystands
    · refine .decided i _ (List.getElem?_set_self hlength) (hwaits.win hns hs hnext) ?_
      intro j q hj hq
      rcases getElem?_set_cases hq with ⟨hsame, -⟩ | ⟨-, hold⟩
      · exact absurd hsame hj
      · exact (hparties j q hold).imp_right .inl
    · obtain ⟨haside, hafter⟩ := hbystands.turn (s := s.store) hnext
      refine .pending (Tenant.stable_composed ns [] haside hs) fun j q hq ↦ ?_
      rcases getElem?_set_cases hq with ⟨-, rfl⟩ | ⟨-, hold⟩
      · exact .inr hafter
      · exact hparties j q hold
  | decided first winner hfirst hwins hothers =>
    by_cases hi : i = first
    · subst hi
      obtain rfl : winner = p := Option.some.inj (hfirst.symm.trans hp)
      refine .decided i _ (List.getElem?_set_self hlength) (hwins.turn hnext) fun j q hj hq ↦ ?_
      rcases getElem?_set_cases hq with ⟨hsame, -⟩ | ⟨-, hold⟩
      · exact absurd hsame hj
      · exact hothers j q hj hold
    · -- Whoever takes this turn leaves the tenant as it was, and has not won after it.
      have hturn : Aside ns s.store (handle c s.store).2 ∧
          (Waits config instanceId (p.after s.store c next) ∨
            Bystands instanceId ns (p.after s.store c next) ∨
            (p.after s.store c next).LostOver instanceId) := by
        rcases hothers i p hi hp with hwaits | hbystands | hlost
        · obtain ⟨haside, hlost⟩ := hwaits.lose hns hwins.occupied hnext
          exact ⟨haside, .inr (.inr hlost)⟩
        · obtain ⟨haside, hafter⟩ := hbystands.turn (s := s.store) hnext
          exact ⟨haside, .inr (.inl hafter)⟩
        · obtain ⟨f, turn, hdone, -⟩ := hlost
          rw [hnext] at hdone
          cases hdone
      refine .decided first winner ?_ (hwins.aside hturn.1) fun j q hj hq ↦ ?_
      · rw [List.getElem?_set_ne hi]
        exact hfirst
      · rcases getElem?_set_cases hq with ⟨-, rfl⟩ | ⟨-, hold⟩
        · exact hturn.2
        · exact hothers j q hj hold

/-- A contest keeps the decision step by step. -/
theorem Decision.step {s t : State} (h : Decision config instanceId ns s)
    (hns : namespaceFor config.namespacePrefix instanceId = .ok ns)
    (hstep : Step config instanceId ns s t) : Decision config instanceId ns t := by
  cases hstep with
  | join r hr => exact h.join (waits_or_bystands hns hr)
  | turn i hp hnext => exact h.turn hns hp hnext
  | event e he => exact h.aside (he.aside s.store)

/-- A party that has yet to make its first call has not passed and has not ended. -/
theorem Waits.not_passed (h : Waits config instanceId p) : ¬ p.Passed := by
  rintro ⟨turn, hturn, -⟩
  rw [h.turns] at hturn
  cases hturn

/-- A party that waits has not ended. -/
theorem Waits.not_ended (h : Waits config instanceId p)
    (hns : namespaceFor config.namespacePrefix instanceId = .ok ns) : ¬ p.Ended := by
  rintro ⟨answer, hdone⟩
  obtain ⟨⟨username, service, plan, parameters, hrequest⟩, haccepted, hprogram, -⟩ := h
  rw [hrequest] at haccepted hprogram
  obtain ⟨next, hfirst, -⟩ := program_provision hns haccepted
  rw [hdone, hfirst] at hprogram
  cases hprogram

/-- A party that has lost has not passed. -/
theorem Party.LostOver.not_passed (h : p.LostOver instanceId) : ¬ p.Passed := by
  obtain ⟨-, turn, -, hturns, -, ⟨failure, hfailure⟩, -⟩ := h
  rintro ⟨first, hfirst, value, hvalue⟩
  rw [hturns] at hfirst
  obtain rfl : turn = first := Option.some.inj hfirst
  rw [hfailure] at hvalue
  cases hvalue

/-! ## The end of a contest -/

/-- How a contest ends: one party has made the whole tenant for its user, and all others that asked
for a provision have lost. The tenant has one record, and no other user is bound in it. -/
structure Settled (config : Config) (instanceId ns : String) (s : State) (first : Nat)
    (username : String) : Prop where
  winner : ∃ p service plan parameters, s.parties[first]? = some p ∧
    p.request = .provision instanceId username service plan parameters ∧
    p.program = .done (.provisioned (.ok
      ⟨deployOperation, Tenant.dashboardUrl ns config.routeSuffix, ns⟩))
  losers : ∀ (i : Nat) p, i ≠ first → s.parties[i]? = some p → p.Competes instanceId →
    p.LostOver instanceId
  objects : List.Forall₂ (Made ns) (manifests ns username config config.variant)
    (owned ns s.store)
  one_record : ∃ record, Tenant.records ns s.store = [record]
  users : ∀ o ∈ owned ns s.store, ∀ user ∈ Tenant.boundUsers o.2, user = .str username

/-- When all provisions of the instance have ended, and there was one, the contest is settled. -/
theorem Decision.settled {s : State} (h : Decision config instanceId ns s)
    (hns : namespaceFor config.namespacePrefix instanceId = .ok ns)
    (hcompetitor : ∃ (i : Nat) (p : Party), s.parties[i]? = some p ∧ p.Competes instanceId)
    (hended : ∀ (i : Nat) p, s.parties[i]? = some p → p.Competes instanceId → p.Ended) :
    ∃ first username, Settled config instanceId ns s first username := by
  cases h with
  | pending hs hparties =>
    obtain ⟨i, p, hp, hcompetes⟩ := hcompetitor
    rcases hparties i p hp with hwaits | hbystands
    · exact absurd (hended i p hp hcompetes) (hwaits.not_ended hns)
    · exact absurd hcompetes hbystands.apart
  | decided first winner hfirst hwins hothers =>
    obtain ⟨-, username, service, plan, parameters, hrequest, hsafe⟩ := hwins
    obtain ⟨answer, hdone⟩ :=
      hended first winner hfirst ⟨username, service, plan, parameters, hrequest⟩
    rw [hdone] at hsafe
    obtain ⟨rfl, hcomposed⟩ := hsafe.post
    obtain ⟨record, hrecords, -⟩ := hcomposed.one_record
    refine ⟨first, username, ⟨winner, service, plan, parameters, hfirst, hrequest, hdone⟩, ?_,
      hcomposed.objects, ⟨record, hrecords⟩, fun o ho ↦ hcomposed.boundUsers ho⟩
    intro i p hi hp hcompetes
    rcases hothers i p hi hp with hwaits | hbystands | hlost
    · exact absurd (hended i p hp hcompetes) (hwaits.not_ended hns)
    · exact absurd hcompetes hbystands.apart
    · exact hlost

/-- At any point one provision of the instance at most has passed its first call. -/
theorem Decision.passed_unique {s : State} (h : Decision config instanceId ns s) {i j : Nat}
    {p q : Party} (hp : s.parties[i]? = some p) (hq : s.parties[j]? = some q)
    (hcompetes : p.Competes instanceId) (hcompetes' : q.Competes instanceId) (hpassed : p.Passed)
    (hpassed' : q.Passed) : i = j := by
  cases h with
  | pending hs hparties =>
    rcases hparties i p hp with hwaits | hbystands
    · exact absurd hpassed hwaits.not_passed
    · exact absurd hcompetes hbystands.apart
  | decided first winner hfirst hwins hothers =>
    have hsame (k : Nat) (r : Party) (hr : s.parties[k]? = some r)
        (hcompetes : r.Competes instanceId) (hpassed : r.Passed) : k = first := by
      apply Classical.byContradiction
      intro hk
      rcases hothers k r hk hr with hwaits | hbystands | hlost
      · exact hwaits.not_passed hpassed
      · exact hbystands.apart hcompetes
      · exact hlost.not_passed hpassed
    rw [hsame i p hp hcompetes hpassed, hsame j q hq hcompetes' hpassed']

/-- In every state of a system in which no failure is injected and nothing is left of an instance, a
contest can begin. -/
theorem pending_of_reachable {σ : System} (hσ : σ.Reachable) (hunhindered : σ.store.failures = [])
    (habsent : σ.store.has (namespaceKey (.text ns)) = false)
    (hlasting : .text ns ∉ σ.store.terminating)
    (hrole : σ.store.has (Tenant.clusterRoleKey ns) = false)
    (hbinding : σ.store.has (Tenant.clusterRoleBindingKey ns) = false) :
    Decision config instanceId ns ⟨σ.store, []⟩ := by
  have hvacant : owned ns σ.store = [] := by
    unfold owned
    rw [List.filter_eq_nil_iff]
    intro o ho howned
    have hhas := Cluster.Store.has_of_mem ho
    rcases of_decide_eq_true howned with hin | hkey | hkey | hkey
    · exact hσ.sound.housed.vacant habsent ho hin
    · rw [hkey, habsent] at hhas
      cases hhas
    · rw [hkey, hrole] at hhas
      cases hhas
    · rw [hkey, hbinding] at hhas
      cases hhas
  refine .pending ⟨hunhindered, hlasting, ?_⟩ fun i p hp ↦ nomatch hp
  rw [hvacant]
  exact .nil

/-- In every state of every contest one provision of the instance at most has passed its first call.
When all of them have ended, exactly one has succeeded, and the tenant is the one that it was to
make. -/
theorem one_winner {σ : System} (hσ : σ.Reachable) (hunhindered : σ.store.failures = [])
    (hns : namespaceFor config.namespacePrefix instanceId = .ok ns)
    (habsent : σ.store.has (namespaceKey (.text ns)) = false)
    (hlasting : .text ns ∉ σ.store.terminating)
    (hrole : σ.store.has (Tenant.clusterRoleKey ns) = false)
    (hbinding : σ.store.has (Tenant.clusterRoleBindingKey ns) = false) {s : State}
    (hs : ReflTransGen (Step config instanceId ns) ⟨σ.store, []⟩ s) :
    (∀ (i j : Nat) p q, s.parties[i]? = some p → s.parties[j]? = some q → p.Competes instanceId →
      q.Competes instanceId → p.Passed → q.Passed → i = j) ∧
    ((∃ (i : Nat) (p : Party), s.parties[i]? = some p ∧ p.Competes instanceId) →
      (∀ (i : Nat) p, s.parties[i]? = some p → p.Competes instanceId → p.Ended) →
      ∃ first username, Settled config instanceId ns s first username) := by
  have h : Decision config instanceId ns s := by
    induction hs with
    | refl => exact pending_of_reachable hσ hunhindered habsent hlasting hrole hbinding
    | tail _ hstep ih => exact ih.step hns hstep
  exact ⟨fun i j p q hp hq ↦ h.passed_unique hp hq, h.settled hns⟩

/-- Every party can be brought to its end. -/
theorem exists_ended {start s : State} (hs : ReflTransGen (Step config instanceId ns) start s)
    {i : Nat} (hp : s.parties[i]? = some p) :
    ∃ t answer turns, ReflTransGen (Step config instanceId ns) start
      ⟨t, s.parties.set i ⟨p.request, .done answer, turns⟩⟩ := by
  obtain ⟨request, program, turns⟩ := p
  induction program generalizing s turns with
  | done answer =>
    refine ⟨s.store, answer, turns, ?_⟩
    obtain ⟨hlength, hsame⟩ := List.getElem?_eq_some_iff.mp hp
    rw [← hsame, List.set_getElem_self]
    exact hs
  | call c next ih =>
    have hlength := (List.getElem?_eq_some_iff.mp hp).1
    have hturn := hs.tail (.turn i hp rfl)
    obtain ⟨t, answer, turns', hrest⟩ := ih _ hturn _ (List.getElem?_set_self hlength)
    rw [List.set_set] at hrest
    exact ⟨t, answer, turns', hrest⟩

/-- Two users ask for one instance, and the one who asked last creates the namespace first. -/
theorem one_winner_of_two :
    ∃ s first username,
      s.parties.map (·.request) = [.provision "a" "u" .null .null .null,
        .provision "a" "v" .null .null .null] ∧
      Settled {} "a" "rhpam-a" s first username := by
  have hadmissible (username : String) (h : username ≠ "") :
      Admissible "a" (.provision "a" username .null .null .null) := fun _ ↦ ⟨h, rfl⟩
  have hasked : ReflTransGen (Step {} "a" "rhpam-a") ⟨.empty, []⟩ _ :=
    .tail (.tail .refl (.join _ (hadmissible "u" (by decide))))
      (.join _ (hadmissible "v" (by decide)))
  have hdecided := hasked.tail (.turn 1 rfl rfl)
  obtain ⟨t, answer, turns, hfirst⟩ := exists_ended hdecided (i := 0) rfl
  obtain ⟨u, answer', turns', hsecond⟩ := exists_ended hfirst (i := 1) rfl
  obtain ⟨-, hsettled⟩ :=
    one_winner (σ := .start) .refl rfl rfl rfl List.not_mem_nil rfl rfl hsecond
  obtain ⟨first, username, h⟩ :=
    hsettled ⟨0, _, rfl, "u", .null, .null, .null, rfl⟩ fun i p hp _ ↦ by
      match i with
      | 0 => exact ⟨answer, by rw [← Option.some.inj hp]⟩
      | 1 => exact ⟨answer', by rw [← Option.some.inj hp]⟩
      | i + 2 => cases hp
  exact ⟨_, first, username, rfl, h⟩

end Contest

end TenantBroker.Broker
