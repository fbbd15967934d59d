import TenantBroker.Proofs.Broker.Request
import TenantBroker.Proofs.Tenant.Conduct

/-!
# Sessions

A session takes requests one after the other, each to its end, while fair events may happen at any
time. In every state that a session can reach, the parts of all tenants are ordered, and once a
removal is reported as succeeded nothing of the tenant is left.
-/

namespace TenantBroker.Broker

open Cluster (Call Event Failure Kind Program Store namespaceKey)
open Cluster.Program
open Cluster.Store (handle)
open Relation (ReflTransGen)
open Tenant (FairChange Fair Ordered Owns Vacant namespaceFor)

/-- The cluster, and the latest request with what is left of its program. -/
structure Session where
  store : Store
  current : Option (Request × Program Answer)

namespace Session

/-- The cluster is empty and nothing has been asked. -/
def start : Session := ⟨.empty, none⟩

/-- No request is under way. -/
def Idle (s : Session) : Prop := ∀ r p, s.current = some (r, p) → ∃ answer, p = .done answer

/-- The latest request has been answered. -/
def Answered (s : Session) (r : Request) (answer : Answer) : Prop :=
  s.current = some (r, .done answer)

/-- A session takes a request when it is idle, or makes the next call, or a fair event happens. -/
inductive Step (config : Config) : Session → Session → Prop
  | ask {s : Session} (r : Request) (h : s.Idle) :
      Step config s ⟨s.store, some (r, r.program config)⟩
  | call {s : Session} {r : Request} {c : Call}
      {next : Except Cluster.Failure c.Reply → Program Answer}
      (h : s.current = some (r, .call c next)) :
      Step config s ⟨(handle c s.store).2, some (r, next (handle c s.store).1)⟩
  | event {s : Session} {e : Event} (h : Fair s.store e) :
      Step config s ⟨e.apply s.store, s.current⟩

/-- A session can come to this state. -/
def Reachable (config : Config) (s : Session) : Prop := ReflTransGen (Step config) start s

variable {config : Config} {s : Session}

/-- The session after one more request has run to its end, without events in between. -/
def answer (config : Config) (s : Session) (r : Request) : Session :=
  ⟨((r.program config).run handle s.store).2,
    some (r, .done ((r.program config).run handle s.store).1)⟩

/-- A session starts idle. -/
theorem idle_start : start.Idle := fun _ _ h ↦ nomatch h

/-- A session is idle after an answer. -/
theorem idle_answer (config : Config) (s : Session) (r : Request) : (s.answer config r).Idle := by
  intro r' p h
  obtain ⟨rfl, rfl⟩ := Prod.mk.inj (Option.some.inj h)
  exact ⟨_, rfl⟩

/-- Running a request to its end is one way for an idle session to go on. -/
theorem Reachable.answer (h : Reachable config s) (hidle : s.Idle) (r : Request) :
    Reachable config (s.answer config r) := by
  have hcalls (p : Program Answer) (store : Store) (h : Reachable config ⟨store, some (r, p)⟩) :
      Reachable config ⟨(p.run handle store).2, some (r, .done (p.run handle store).1)⟩ := by
    induction p generalizing store with
    | done answer => exact h
    | call c next ih => exact ih _ _ (h.tail (.call rfl))
  exact hcalls _ _ (h.tail (.ask r hidle))

end Session

/-! ## Safety of requests -/

/-- What an answer says about the cluster: after a removal that has succeeded nothing is left. -/
def Truthful (config : Config) : Request → Answer → Store → Prop
  | .lastOperation instanceId operation, .status (.ok status), s =>
    operation = removeOperation → status.state = .succeeded →
      ∀ ns, namespaceFor config.namespacePrefix instanceId = .ok ns → Vacant ns s
  | _, _, _ => True

variable {config : Config}

private theorem vacant_stable (ns : String) : Stable FairChange (Vacant ns) := by
  rintro s _ ⟨e, -, rfl⟩ h o ho
  obtain ⟨before, hmem, hkey, -⟩ := Event.mem_apply ho
  exact hkey ▸ h before hmem

private theorem safe_answer {α : Type} {p : Action α} {f : Except Failure α → Answer} {r : Request}
    {s : Store} (h : Leads handle FairChange Ordered (fun _ ↦ True) (fun _ ↦ True) p)
    (hf : ∀ outcome t, Truthful config r (f outcome) t) (hs : Ordered s) :
    (p.map f).Safe handle FairChange Ordered (Truthful config r) s :=
  Safe.map ((h s hs trivial).mono fun outcome t _ _ ↦ hf outcome t)

private theorem leads_orFail {α β : Type} {value : Except Failure α} {next : α → Action β}
    (h : ∀ a, Leads handle FairChange Ordered (fun _ ↦ True) (fun _ ↦ True) (next a)) :
    Leads handle FairChange Ordered (fun _ ↦ True) (fun _ ↦ True) (orFail value next) := by
  cases value with
  | ok a => exact h a
  | error f =>
    intro s hs _
    exact safe_done Tenant.ordered_stable Tenant.true_stable hs fun _ _ ↦ trivial

private theorem safe_removeStatus {ns : String} {s : Store} (hs : Ordered s) :
    (removeStatus ns).Safe handle FairChange Ordered
      (fun outcome t ↦ ∀ status, outcome = .ok status → status.state = .succeeded → Vacant ns t)
      s := by
  intro t ht
  have hI := Tenant.ordered_stable.many ht hs
  refine ⟨hI, ?_⟩
  have htrace : (t.get Kind.namespaces (.str ns) .null).2 = t.noted t.generated _ :=
    Cluster.Store.get_snd t _ _ _
  simp only [handle, htrace]
  cases hr : (t.get Kind.namespaces (.str ns) .null).1 with
  | ok object =>
    refine fun u hu ↦ ⟨Tenant.ordered_stable.many hu (hI.noted _ _), fun status hstatus hstate ↦ ?_⟩
    rw [← Except.ok.inj hstatus] at hstate
    cases hstate
  | error f =>
    refine fun u hu ↦ ⟨Tenant.ordered_stable.many hu (hI.noted _ _), fun status hstatus hstate ↦ ?_⟩
    by_cases hf : f.isNotFound = true
    · refine (vacant_stable ns).many hu ((hI.noted _ _).vacant ?_)
      rcases Cluster.Store.get_error hr with hmade | habsent
      · rw [hI.candid .get Kind.namespaces f (.inr ⟨rfl, rfl⟩) hmade] at hf
        cases hf
      · exact habsent _ rfl
    · rw [if_neg hf] at hstatus
      cases hstatus

/-- Every request is safe in an ordered store, and its answer is truthful. -/
theorem safe_program (r : Request) {s : Store} (hs : Ordered s) :
    (r.program config).Safe handle FairChange Ordered (Truthful config r) s := by
  cases r with
  | provision instanceId username service plan parameters =>
    refine safe_answer (leads_orFail fun _ ↦ ?_) (fun _ _ ↦ trivial) hs
    unfold provisionTenant
    split
    · exact fun s hs _ ↦
        safe_done Tenant.ordered_stable Tenant.true_stable hs fun _ _ ↦ trivial
    · refine leads_orFail fun ns ↦ leads_map (Tenant.leads_provisionSteps instanceId) ?_
      rintro (f | outcomes) value h
      · cases h
      · exact ⟨outcomes, rfl⟩
  | deprovision instanceId =>
    refine safe_answer (leads_orFail fun ns ↦ ?_) (fun _ _ ↦ trivial) hs
    refine leads_map (Tenant.leads_deprovisionSteps instanceId) ?_
    rintro (f | outcomes) value h
    · cases h
    · exact ⟨outcomes, rfl⟩
  | lastOperation instanceId operation =>
    by_cases hremove : operation = removeOperation
    · subst hremove
      refine Safe.map ?_
      unfold lastOperation orFail instanceNamespace
      cases hns : namespaceFor config.namespacePrefix instanceId with
      | error fault =>
        intro t ht
        exact ⟨Tenant.ordered_stable.many ht hs, trivial⟩
      | ok ns =>
        refine (safe_removeStatus hs).mono fun outcome t _ h ↦ ?_
        cases outcome with
        | error f => trivial
        | ok status =>
          intro _ hstate other hother
          rw [hns, Except.ok.injEq] at hother
          exact hother ▸ h status rfl hstate
    · have honly : ((Request.lastOperation instanceId operation).program config).Only
          Tenant.IsNeutral :=
        only_map (only_lastOperation (fun _ _ _ ↦ trivial) (fun _ _ ↦ trivial) _ _)
      refine (safe_of_only Tenant.ordered_stable Tenant.true_stable
        (fun c hc t hI _ ↦ ⟨(hI.neutral hc).1, trivial⟩) honly hs trivial).mono ?_
      rintro (outcome | outcome | outcome | status) t _ _
      · trivial
      · trivial
      · trivial
      · intro he
        exact absurd he hremove

/-! ## Every state of a session -/

namespace Session

/-- The store is ordered, and what is left of a request is safe. -/
structure Sound (config : Config) (s : Session) : Prop where
  ordered : Ordered s.store
  safe : ∀ r p, s.current = some (r, p) →
    p.Safe handle FairChange Ordered (Truthful config r) s.store

/-- A session stays sound step by step. -/
theorem Sound.step {s t : Session} (h : Sound config s) (hstep : Step config s t) :
    Sound config t := by
  cases hstep with
  | ask r hidle =>
    refine ⟨h.ordered, fun r' p hp ↦ ?_⟩
    obtain ⟨rfl, rfl⟩ := Prod.mk.inj (Option.some.inj hp)
    exact safe_program r h.ordered
  | @call r c next hcurrent =>
    have hnext := (h.safe r _ hcurrent).next
    refine ⟨hnext.invariant, fun r' p hp ↦ ?_⟩
    obtain ⟨rfl, rfl⟩ := Prod.mk.inj (Option.some.inj hp)
    exact hnext
  | event hfair =>
    exact ⟨h.ordered.apply hfair, fun r p hp ↦ (h.safe r p hp).between ⟨_, hfair, rfl⟩⟩

/-- Every state of a session is sound. -/
theorem Reachable.sound {s : Session} (h : Reachable config s) : Sound config s := by
  induction h with
  | refl => exact ⟨Tenant.ordered_empty, fun r p hp ↦ nomatch hp⟩
  | tail _ hstep ih => exact ih.step hstep

/-- In every state of a session the binding of a cluster-wide role comes with the role, the
namespace and the operator's account, the role comes with the namespace, and where the latest answer
is that the removal of an instance has succeeded nothing of its tenant is left. -/
theorem nothing_left_of_removed {s : Session} (h : Reachable config s) {instanceId ns : String}
    (hns : namespaceFor config.namespacePrefix instanceId = .ok ns) :
    (s.store.has (Tenant.clusterRoleBindingKey ns) = true →
      s.store.has (Tenant.clusterRoleKey ns) = true ∧
      s.store.has (namespaceKey (.text ns)) = true ∧
      s.store.has (Tenant.accountKey ns) = true) ∧
    (s.store.has (Tenant.clusterRoleKey ns) = true →
      s.store.has (namespaceKey (.text ns)) = true) ∧
    ∀ status, s.Answered (.lastOperation instanceId removeOperation) (.status (.ok status)) →
      status.state = .succeeded → ∀ o ∈ s.store.objects, ¬ Owns ns o.1 := by
  obtain ⟨hordered, hsafe⟩ := h.sound
  refine ⟨fun hb ↦ ?_, fun hr ↦ (hordered.ruled ns hr).1, fun status hanswer hstate ↦ ?_⟩
  · obtain ⟨hr, ha⟩ := hordered.bound ns hb
    exact ⟨hr, (hordered.ruled ns hr).1, ha⟩
  · exact (hsafe _ _ hanswer).post rfl hstate ns hns

/-- The status that an answer gives. -/
def status? : Answer → Option Status
  | .status (.ok status) => some status
  | _ => none

/-- An answer that gives a status is that status. -/
theorem eq_of_status? {answer : Answer} {status : Status} (h : status? answer = some status) :
    answer = .status (.ok status) := by
  rcases answer with outcome | outcome | (f | found)
  · cases h
  · cases h
  · cases h
  · rw [Option.some.inj h]

/-- An instance that has been provisioned has its bindings and their account. Once it has been
deprovisioned its removal is reported as succeeded, and nothing of it is left. -/
theorem nothing_left_of_provisioned :
    let made := start.answer {} (.provision "a" "u" .null .null .null)
    let s := (made.answer {} (.deprovision "a")).answer {} (.lastOperation "a" removeOperation)
    made.store.has (Tenant.clusterRoleBindingKey "rhpam-a") = true ∧
      made.store.has (Tenant.accountKey "rhpam-a") = true ∧
      s.Answered (.lastOperation "a" removeOperation) (.status (.ok .deleted)) ∧
      ∀ o ∈ s.store.objects, ¬ Owns "rhpam-a" o.1 := by
  intro made s
  have hns : namespaceFor "rhpam" "a" = .ok "rhpam-a" := rfl
  have hmade : Reachable {} made := Reachable.answer .refl idle_start _
  have hbinding : made.store.has (Tenant.clusterRoleBindingKey "rhpam-a") = true := rfl
  have hs : Reachable {} s := (hmade.answer (idle_answer _ _ _) _).answer (idle_answer _ _ _) _
  have hstatus : status? (((Request.lastOperation "a" removeOperation).program {}).run handle
      (made.answer {} (.deprovision "a")).store).1 = some .deleted := by decide +kernel
  have hanswer : s.Answered (.lastOperation "a" removeOperation) (.status (.ok .deleted)) := by
    rw [← eq_of_status? hstatus]
    rfl
  exact ⟨hbinding, ((nothing_left_of_removed hmade hns).1 hbinding).2.2, hanswer,
    (nothing_left_of_removed hs hns).2.2 _ hanswer rfl⟩

end Session

end TenantBroker.Broker
