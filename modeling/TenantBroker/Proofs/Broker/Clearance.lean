import TenantBroker.Proofs.Broker.Request
import TenantBroker.Proofs.Pipeline.Sweep

/-!
# What a deprovision runs

Behind kubectl a deprovision is a sequence of exchanges. The namespace of a tenant goes last: it is
deleted only once the tenant's own records are swept and the binding and the role that live outside
the namespace are gone, whatever the cluster answers. So no rights outlive a tenant whose namespace
was taken away.
-/

namespace TenantBroker.Broker

open Cluster (Call Kind)
open Cluster.Program
open Kubectl (Client Exchange Legible Placed Ran)
open Pipeline (Clearing Deleted Found Halts Step Swept)
open Tenant (clusterScopedName deprovisionSteps namespaceFor recordKinds)

/-! ## The calls and their order -/

/-- A call that a deprovision can make after some exchanges. -/
inductive Allowed (ns : String) (before : List Exchange) : Call → Prop
  | list {kind : Kind} (hkind : kind ∈ recordKinds) : Allowed ns before (.list kind (.str ns))
  | item {kind : Kind} {name : Json} (hkind : kind ∈ recordKinds)
      (h : Found before kind (.str ns) name) : Allowed ns before (.delete kind name (.str ns))
  | binding : Allowed ns before
      (.delete Kind.clusterRoleBindings (.str (clusterScopedName ns)) .null)
  | role : Allowed ns before (.delete Kind.clusterRoles (.str (clusterScopedName ns)) .null)
  | tenant : Allowed ns before (.delete Kind.namespaces (.str ns) .null)

/-- The exchanges that leave nothing of a tenant but its namespace: the records of both kinds are
swept, then the binding is gone, and then the role. -/
def Emptied (ns : String) (exchanges : List Exchange) : Prop :=
  ∃ users developments binding role,
    exchanges = users ++ developments ++ [binding, role] ∧
    Swept Kind.users (.str ns) users ∧ Swept Kind.developments (.str ns) developments ∧
    Deleted Kind.clusterRoleBindings .null (.str (clusterScopedName ns)) binding ∧
    Deleted Kind.clusterRoles .null (.str (clusterScopedName ns)) role

/-- The steps of a removal before the last. -/
def emptyingSteps (ns : String) : List Step :=
  recordKinds.map (Step.deleteAll · (.str ns)) ++
    [Step.delete Kind.clusterRoleBindings (.str (clusterScopedName ns)) .null,
      Step.delete Kind.clusterRoles (.str (clusterScopedName ns)) .null]

variable {ns : String} {exchanges before later : List Exchange} {e : Exchange} {whole : Bool}

/-- The last step of a removal deletes the namespace. -/
theorem deprovisionSteps_eq (ns : String) :
    deprovisionSteps ns = emptyingSteps ns ++ [Step.delete Kind.namespaces (.str ns) .null] := rfl

/-- All steps of a removal delete. -/
theorem deletes_deprovisionSteps (ns : String) : ∀ step ∈ deprovisionSteps ns, step.Deletes := by
  simp [deprovisionSteps, recordKinds, Step.Deletes, Step.deleteAll, Step.delete]

/-- What is due for a step of a removal is allowed. -/
theorem allowed_of_due {step : Step} (hstep : step ∈ deprovisionSteps ns) {c : Call}
    (h : step.Due before c) : Allowed ns before c := by
  rcases List.mem_append.mp hstep with hswept | hsingle
  · obtain ⟨kind, hkind, rfl⟩ := List.mem_map.mp hswept
    cases h with
    | delete haction => cases haction
    | list _ => exact .list hkind
    | item _ h => exact .item hkind h
  · simp only [List.mem_cons, List.not_mem_nil, or_false] at hsingle
    rcases hsingle with rfl | rfl | rfl
    · rw [h.eq_delete rfl]
      exact .binding
    · rw [h.eq_delete rfl]
      exact .role
    · rw [h.eq_delete rfl]
      exact .tenant

/-- Before the last step of a removal the namespace is not deleted. -/
theorem spares_namespace (h : Clearing (emptyingSteps ns) exchanges whole) :
    ∀ e ∈ exchanges, e.call ≠ .delete Kind.namespaces (.str ns) .null := by
  have hkinds : ∀ step ∈ emptyingSteps ns, step.kind ≠ Kind.namespaces := by
    simp [emptyingSteps, recordKinds, Step.deleteAll, Step.delete, Kind.users, Kind.developments,
      Kind.clusterRoleBindings, Kind.clusterRoles, Kind.namespaces]
  intro e he hcall
  obtain ⟨before, later, hsplit⟩ := List.append_of_mem he
  obtain ⟨step, hstep, hdue⟩ := h.due hsplit
  rw [hcall] at hdue
  exact hkinds step hstep hdue.kind_eq

/-- Steps of a removal that have run through, up to the last, leave nothing but the namespace. -/
theorem emptied_of_clearing (h : Clearing (emptyingSteps ns) exchanges true) :
    Emptied ns exchanges := by
  cases h with | next husers h =>
  cases h with | next hdevelopments h =>
  cases h with | next hbinding h =>
  obtain ⟨role, rfl, hrole, hrole'⟩ := h.removal.single rfl
  obtain ⟨binding, rfl, hbinding, hbinding'⟩ := hbinding.single rfl
  refine ⟨_, _, binding, role, ?_, husers.sweeps rfl, hdevelopments.sweeps rfl,
    ⟨hbinding, hbinding'.mpr rfl⟩, ⟨hrole, hrole'.mpr rfl⟩⟩
  rw [List.append_assoc]
  rfl

/-- The exchanges of a removal: either the namespace is left alone and the removal has not run
through, or the last exchange deletes it, after all else is gone, and decides. -/
theorem clearing_cases (h : Clearing (deprovisionSteps ns) exchanges whole) :
    (∀ e ∈ exchanges, e.call ≠ .delete Kind.namespaces (.str ns) .null) ∧ whole = false ∨
      ∃ before e, exchanges = before ++ [e] ∧ Emptied ns before ∧
        (∀ other ∈ before, other.call ≠ .delete Kind.namespaces (.str ns) .null) ∧
        e.call = .delete Kind.namespaces (.str ns) .null ∧ (e.Clears ↔ whole = true) := by
  rw [deprovisionSteps_eq] at h
  rcases h.split with ⟨before, others, rfl, hbefore, hothers⟩ | ⟨hbroken, rfl⟩
  · obtain ⟨e, rfl, hcall, hclears⟩ := hothers.removal.single rfl
    exact .inr ⟨before, e, rfl, emptied_of_clearing hbefore, spares_namespace hbefore, hcall,
      hclears⟩
  · exact .inl ⟨spares_namespace hbroken, rfl⟩

/-- An exchange that deletes the namespace is the last one, after all else is gone. -/
theorem namespace_last (h : Clearing (deprovisionSteps ns) (before ++ e :: later) whole)
    (hcall : e.call = .delete Kind.namespaces (.str ns) .null) :
    Emptied ns before ∧ later = [] := by
  rcases clearing_cases h with ⟨hspared, -⟩ | ⟨first, last, hsplit, hemptied, hspared, -⟩
  · exact absurd hcall (hspared e (by simp))
  · rcases List.eq_nil_or_concat' later with rfl | ⟨others, other, rfl⟩
    · obtain ⟨rfl, -⟩ := List.append_inj' hsplit rfl
      exact ⟨hemptied, rfl⟩
    · rw [← List.cons_append, ← List.append_assoc] at hsplit
      obtain ⟨rfl, -⟩ := List.append_inj' hsplit rfl
      exact absurd hcall (hspared e (by simp))

/-- A removal has run through exactly if its last exchange deletes the namespace after all else is
gone, and the namespace is gone then. -/
theorem whole_iff (h : Clearing (deprovisionSteps ns) exchanges whole) :
    whole = true ↔ ∃ before e, exchanges = before ++ [e] ∧ Emptied ns before ∧
      Deleted Kind.namespaces .null (.str ns) e := by
  rcases clearing_cases h with ⟨hspared, rfl⟩ | ⟨first, last, rfl, hemptied, -, hcall, hclears⟩
  · refine ⟨nofun, ?_⟩
    rintro ⟨before, e, rfl, -, hcall, -⟩
    exact absurd hcall (hspared e (by simp))
  · constructor
    · exact fun hwhole ↦ ⟨first, last, rfl, hemptied, hcall, hclears.mpr hwhole⟩
    · rintro ⟨before, e, hsplit, -, -, he⟩
      obtain ⟨-, hlast⟩ := List.append_inj' hsplit rfl
      obtain rfl := List.singleton_inj.mp hlast
      exact hclears.mp he

/-! ## Deprovisions -/

/-- The calls of a deprovision read and delete, while what is listed has a text. -/
theorem placed_deprovision (config : Config) (instanceId : String) :
    (deprovision config instanceId).OnlyUnder Legible Placed := by
  refine onlyUnder_deprovision fun other hother step hstep ↦ ?_
  have hne := Tenant.namespace_ne_empty hother
  have htruthy : (Json.str other).isTruthy = true := by simpa [Json.isTruthy] using hne
  rcases List.mem_append.mp hstep with hswept | hsingle
  · obtain ⟨kind, -, rfl⟩ := List.mem_map.mp hswept
    exact ⟨⟨rfl, fun _ ↦ htruthy⟩, fun items hitems item hitem name hname ↦
      ⟨Pipeline.isWritable_listedName (hitems item hitem) hname, fun _ ↦ htruthy⟩⟩
  · simp only [List.mem_cons, List.not_mem_nil, or_false] at hsingle
    rcases hsingle with rfl | rfl | rfl
    all_goals exact ⟨rfl, fun h ↦ absurd h Bool.false_ne_true⟩

/-- The runs of a deprovision fall into exchanges. Every run of an exchange is the command of a call
that lists records of the tenant, deletes one that the last listing of its kind names, or deletes
the binding, the role or the namespace. An exchange that another one follows has left nothing of
what it was to take away. The namespace is deleted last, when all else is gone, and the deprovision
succeeds exactly if the namespace is gone too. Otherwise an exchange has brought it to a halt. -/
theorem deprovision_trace {config : Config} {instanceId ns : String}
    (htimeout : ∃ negative significand exponent,
      config.stepTimeout = .finite negative significand exponent)
    (hns : namespaceFor config.namespacePrefix instanceId = .ok ns) (s : Kubectl.Session) :
    let after := (deprovision config instanceId).run (Client.ofConfig config).handle s
    ∃ exchanges : List Exchange,
      Ran s (exchanges.flatMap Exchange.ended) after.2 ∧
      (∀ e ∈ exchanges, e.Made (Client.ofConfig config)) ∧
      (∀ before e later, exchanges = before ++ e :: later → Allowed ns before e.call) ∧
      (∀ e ∈ exchanges.dropLast, e.Clears) ∧
      (∀ before e later, exchanges = before ++ e :: later →
        e.call = .delete Kind.namespaces (.str ns) .null → Emptied ns before ∧ later = []) ∧
      (after.1 = .ok removeOperation ↔ ∃ before e, exchanges = before ++ [e] ∧
        Emptied ns before ∧ Deleted Kind.namespaces .null (.str ns) e) ∧
      (after.1 = .ok removeOperation ∨
        (∃ f, after.1 = .error f) ∧ ∃ e ∈ exchanges, Halts e) := by
  intro after
  obtain ⟨negative, significand, exponent, htimeout⟩ := htimeout
  obtain ⟨limit, hlimit⟩ : ∃ limit, (Client.ofConfig config).requestTimeout = .ok limit := by
    simp only [Client.requestTimeout, Client.ofConfig, htimeout]
    exact ⟨_, rfl⟩
  obtain ⟨exchanges, hfollows, hran, hmade⟩ :=
    Kubectl.exists_follows hlimit (placed_deprovision config instanceId) s
  replace hfollows : Kubectl.Follows (deprovision config instanceId) exchanges after.1 := hfollows
  rw [deprovision_eq hns] at hfollows
  obtain ⟨outcome, houtcome, hfollows⟩ := Kubectl.follows_map hfollows
  have hclearing := Pipeline.clearing_of_follows instanceId (deletes_deprovisionSteps ns) hfollows
  have hends : after.1 = .ok removeOperation ∧ outcome.isOk = true ∨
      (∃ f, after.1 = .error f) ∧ outcome.isOk = false := by
    rw [houtcome]
    cases outcome with
    | ok outcomes => exact .inl ⟨rfl, rfl⟩
    | error f => exact .inr ⟨⟨_, rfl⟩, rfl⟩
  have hok : after.1 = .ok removeOperation ↔ outcome.isOk = true := by
    rcases hends with ⟨hsuccess, hwhole⟩ | ⟨⟨f, hf⟩, hwhole⟩
    · exact iff_of_true hsuccess hwhole
    · rw [hf, hwhole]
      refine iff_of_false ?_ Bool.false_ne_true
      intro hsuccess
      cases hsuccess
  refine ⟨exchanges, hran, hmade, fun before e later hsplit ↦ ?_, hclearing.clears_of_next,
    fun before e later hsplit ↦ ?_, hok.trans (whole_iff hclearing), ?_⟩
  · obtain ⟨step, hstep, hdue⟩ := hclearing.due hsplit
    exact allowed_of_due hstep hdue
  · exact namespace_last (hsplit ▸ hclearing)
  · rcases hends with ⟨hsuccess, -⟩ | ⟨hfailed, hwhole⟩
    · exact .inl hsuccess
    · rw [hwhole] at hclearing
      exact .inr ⟨hfailed, hclearing.halts⟩

/-- The first listing is refused once and then finds no kind of its own, the second one is empty,
and the binding is gone already. The role and the namespace are deleted. -/
theorem deprovision_trace_refused :
    let s : Kubectl.Session := {
      planned := [.fixed (.finished 1 none (some "connection refused")),
        .fixed (.finished 1 none (some "the server doesn't have a resource type")),
        .fixed (.finished 0 (some "\x7b\x7d") none),
        .fixed (.finished 1 none (some "not found"))]
      afterwards := .fixed (.finished 0 none none) }
    ∃ t, (deprovision {} "a").run (Client.ofConfig {}).handle s = (.ok removeOperation, t) ∧
      t.runs.length = 6 ∧ ∃ exchanges : List Exchange,
        Ran s (exchanges.flatMap Exchange.ended) t ∧
        ∃ before e, exchanges = before ++ [e] ∧ Emptied "rhpam-a" before ∧
          Deleted Kind.namespaces .null (.str "rhpam-a") e := by
  intro s
  have htimeout : ∃ negative significand exponent,
      ({} : Config).stepTimeout = .finite negative significand exponent := ⟨_, _, _, rfl⟩
  have hns : namespaceFor ({} : Config).namespacePrefix "a" = .ok "rhpam-a" := rfl
  have hok : ((deprovision {} "a").run (Client.ofConfig {}).handle s).1 = .ok removeOperation := by
    rfl
  have hruns : ((deprovision {} "a").run (Client.ofConfig {}).handle s).2.runs.length = 6 := by rfl
  obtain ⟨exchanges, hran, -, -, -, -, hsucceeds, -⟩ := deprovision_trace htimeout hns s
  generalize (deprovision {} "a").run (Client.ofConfig {}).handle s = after at *
  obtain ⟨given, t⟩ := after
  obtain rfl : given = .ok removeOperation := hok
  exact ⟨t, rfl, hruns, exchanges, hran, hsucceeds.mp rfl⟩

end TenantBroker.Broker
