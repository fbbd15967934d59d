import TenantBroker.Proofs.Broker.Request
import TenantBroker.Proofs.Tenant.Removal

/-!
# Interleaved requests

Any number of requests run at once, under settings of their own, and take turns call by call. Each
can be given up at any point, and events happen at any time. Whatever comes of this, a deprovision
that nothing hinders takes away exactly what belongs to its instance, and a second one changes
nothing.
-/

namespace TenantBroker.Broker

open Cluster (Call Event Program Store)
open Cluster.Program
open Cluster.Store (handle)
open Relation (ReflTransGen)
open Tenant (Owns namespaceFor)

/-- The cluster, and what is left of the programs of the requests that are under way. -/
structure System where
  store : Store
  running : List (Program Answer)

namespace System

/-- The cluster is empty and nothing has been asked. -/
def start : System := ⟨.empty, []⟩

/-- A request begins, one of those under way makes its next call or is given up, or an event
happens. -/
inductive Step : System → System → Prop
  | ask {s : System} (config : Config) (r : Request) :
      Step s ⟨s.store, s.running ++ [r.program config]⟩
  | call {s : System} (before after : List (Program Answer)) {c : Call}
      {next : Except Cluster.Failure c.Reply → Program Answer}
      (h : s.running = before ++ .call c next :: after) :
      Step s ⟨(handle c s.store).2, before ++ next (handle c s.store).1 :: after⟩
  | abandon {s : System} (before after : List (Program Answer)) {p : Program Answer}
      (h : s.running = before ++ p :: after) : Step s ⟨s.store, before ++ after⟩
  | event {s : System} (e : Event) : Step s ⟨e.apply s.store, s.running⟩

/-- A system can come to this state. -/
def Reachable (s : System) : Prop := ReflTransGen Step start s

/-- The store is housed and labelled, and what is left to do are orderly calls. -/
structure Sound (s : System) : Prop where
  housed : s.store.Housed
  labelled : s.store.Labelled
  orderly : ∀ p ∈ s.running, p.Only Call.Orderly

end System

/-! ## Every state of a system -/

namespace System

/-- A system stays sound step by step. -/
theorem Sound.step {s t : System} (h : Sound s) (hstep : Step s t) : Sound t := by
  cases hstep with
  | ask config r =>
    refine ⟨h.housed, h.labelled, fun p hp ↦ ?_⟩
    rcases List.mem_append.mp hp with hold | hnew
    · exact h.orderly p hold
    · obtain rfl := List.mem_singleton.mp hnew
      exact orderly_program config r
  | call before after hrunning =>
    rename_i c next
    have honly := h.orderly (.call c next) (hrunning ▸ List.mem_append_right _ List.mem_cons_self)
    refine ⟨h.housed.handle honly.1, h.labelled.handle honly.1, fun p hp ↦ ?_⟩
    rcases List.mem_append.mp hp with hbefore | hrest
    · exact h.orderly p (hrunning ▸ List.mem_append_left _ hbefore)
    · rcases List.mem_cons.mp hrest with rfl | hafter
      · exact honly.2 _
      · exact h.orderly p (hrunning ▸ List.mem_append_right _ (List.mem_cons_of_mem _ hafter))
  | abandon before after hrunning =>
    refine ⟨h.housed, h.labelled, fun p hp ↦ h.orderly p ?_⟩
    rw [hrunning]
    rcases List.mem_append.mp hp with hbefore | hafter
    · exact List.mem_append_left _ hbefore
    · exact List.mem_append_right _ (List.mem_cons_of_mem _ hafter)
  | event e => exact ⟨h.housed.apply e, h.labelled.apply e, h.orderly⟩

/-- Every state of a system is sound. -/
theorem Reachable.sound {s : System} (h : Reachable s) : Sound s := by
  induction h with
  | refl =>
    exact ⟨Cluster.Store.housed_empty, Cluster.Store.labelled_empty, fun p hp ↦ nomatch hp⟩
  | tail _ hstep ih => exact ih.step hstep

/-- In every state of a system, with no failure injected and no deletion held back, a deprovision
succeeds and leaves exactly the objects that do not belong to the instance, as they were. A second
one succeeds too and changes no object. -/
theorem deprovision_heals {s : System} (h : Reachable s) (hfailures : s.store.failures = [])
    (hholding : s.store.holding = false) (config : Config) {instanceId ns : String}
    (hns : namespaceFor config.namespacePrefix instanceId = .ok ns) :
    ∃ t u : Store,
      (deprovision config instanceId).run handle s.store = (.ok removeOperation, t) ∧
      t.objects = s.store.objects.filter (fun o ↦ ¬ Owns ns o.1) ∧
      (deprovision config instanceId).run handle t = (.ok removeOperation, u) ∧
      u.objects = t.objects := by
  obtain ⟨hhoused, hlabelled, -⟩ := h.sound
  obtain ⟨log, hfirst⟩ := Tenant.succeeds_deprovisionSteps hlabelled hfailures instanceId ns
  generalize ht : (Tenant.removed ns s.store).noted s.store.generated log = t at hfirst
  have hobjects : t.objects = s.store.objects.filter fun o ↦ ¬ Owns ns o.1 := by
    rw [← ht]
    exact Tenant.objects_removed hhoused hholding ns
  have hagain : t.Housed ∧ t.Labelled ∧ t.failures = [] ∧ t.holding = false := by
    rw [← ht]
    obtain ⟨hfailures', hholding'⟩ := Tenant.settings_removed ns s.store
    refine ⟨Tenant.housed_removed hhoused ns, hlabelled.mono fun o ho ↦ ?_, ?_, ?_⟩
    · exact Tenant.mem_of_mem_removed ho
    · exact hfailures'.trans hfailures
    · exact hholding'.trans hholding
  obtain ⟨hhoused', hlabelled', hfailures', hholding'⟩ := hagain
  obtain ⟨log', hsecond⟩ := Tenant.succeeds_deprovisionSteps hlabelled' hfailures' instanceId ns
  refine ⟨t, _, run_deprovision hns hfirst, hobjects, run_deprovision hns hsecond, ?_⟩
  rw [Cluster.Store.objects_noted, Tenant.objects_removed hhoused' hholding' ns, hobjects,
    List.filter_filter]
  simp only [Bool.and_self]

/-- A provision is given up after its second call, and the namespace and the account that it has
made are taken away by a deprovision. -/
theorem deprovision_heals_abandoned :
    ∃ s t u : Store, s.has (Tenant.accountKey "rhpam-a") = true ∧
      (deprovision {} "a").run handle s = (.ok removeOperation, t) ∧
      t.objects = s.objects.filter (fun o ↦ ¬ Owns "rhpam-a" o.1) ∧
      (deprovision {} "a").run handle t = (.ok removeOperation, u) ∧ u.objects = t.objects := by
  have hasked : Reachable ⟨.empty, [Request.program {} (.provision "a" "u" .null .null .null)]⟩ :=
    .tail .refl (.ask {} (.provision "a" "u" .null .null .null))
  have hnamespace := hasked.tail (.call [] [] rfl)
  have haccount := hnamespace.tail (.call [] [] rfl)
  have habandoned := haccount.tail (.abandon [] [] rfl)
  have hns : namespaceFor "rhpam" "a" = .ok "rhpam-a" := rfl
  obtain ⟨t, u, hhealed⟩ := deprovision_heals habandoned rfl rfl {} hns
  exact ⟨_, t, u, rfl, hhealed⟩

end System

end TenantBroker.Broker
