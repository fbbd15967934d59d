import TenantBroker.Proofs.Cluster.Housing
import TenantBroker.Proofs.Tenant.Parts

/-!
# The order among the parts of a tenant

A binding of a cluster-wide role is there only together with this role and the operator's account,
and a role only together with its namespace, which is not terminating. Fair events keep this order,
and so does every call that neither creates such a role or binding nor deletes anything that the
order rests on.
-/

namespace TenantBroker.Tenant

open Cluster (Action Call Event Key Kind Name Store namespaceKey)
open Cluster.Store (handle)

/-! ## Ordered stores -/

/-- Whether it counts as gone what a call of this sort does not find. -/
def IsEvidence (action : Action) (kind : String) : Prop :=
  action = .delete ∧ (kind = Kind.clusterRoles.name ∨ kind = Kind.clusterRoleBindings.name) ∨
    action = .get ∧ kind = Kind.namespaces.name

/-- The parts of the tenants rest on each other, and evidence that something is gone is true. -/
structure Ordered (s : Store) : Prop where
  housed : s.Housed
  candid : ∀ action (kind : Kind) f, IsEvidence action kind.name →
    s.failure? action kind = some f → f.isNotFound = false
  bound : ∀ ns, s.has (clusterRoleBindingKey ns) = true →
    s.has (clusterRoleKey ns) = true ∧ s.has (accountKey ns) = true
  ruled : ∀ ns, s.has (clusterRoleKey ns) = true →
    s.has (namespaceKey (.text ns)) = true ∧ .text ns ∉ s.terminating

/-- An event is fair if it does not make up evidence, and ends no termination but one that is under
way. -/
def Fair (s : Store) : Event → Prop
  | .fail action kind f => IsEvidence action kind → f.isNotFound = false
  | .finish ns => .text ns ∈ s.terminating
  | _ => True

/-- The empty store is ordered. -/
theorem ordered_empty : Ordered Store.empty where
  housed := Cluster.Store.housed_empty
  candid action kind f _ h := by simp [Store.failure?, Store.empty] at h
  bound ns h := by simp at h
  ruled ns h := by simp at h

variable {s : Store} {ns : String}

/-- What a fair event removes is in a terminating namespace. -/
theorem has_of_fair {e : Event} (he : Fair s e) {key : Key} (h : s.has key = true)
    (hkey : ∀ ns, .text ns ∈ s.terminating →
      key.ns ≠ some (.text ns) ∧ key ≠ namespaceKey (.text ns)) : (e.apply s).has key = true := by
  refine (Event.has_apply e s key).mpr ⟨h, ?_⟩
  rintro ns rfl
  exact hkey ns he

/-- A fair event keeps the order. -/
theorem Ordered.apply (h : Ordered s) {e : Event} (he : Fair s e) : Ordered (e.apply s) where
  housed := h.housed.apply e
  candid action kind f hevidence hf := by
    rcases Event.failure?_apply hf with hf | rfl
    · exact h.candid action kind f hevidence hf
    · exact he hevidence
  bound ns hb := by
    have hb := ((Event.has_apply e s _).mp hb).1
    obtain ⟨hr, ha⟩ := h.bound ns hb
    have hlasting := (h.ruled ns hr).2
    refine ⟨has_of_fair he hr fun other _ ↦ ⟨by simp [clusterRoleKey], by simp⟩, ?_⟩
    refine has_of_fair he ha fun other hother ↦ ⟨fun hin ↦ ?_, by simp⟩
    simp only [accountKey, Option.some.injEq, Name.text.injEq] at hin
    exact hlasting (hin ▸ hother)
  ruled ns hr := by
    have hr := ((Event.has_apply e s _).mp hr).1
    obtain ⟨hn, hlasting⟩ := h.ruled ns hr
    refine ⟨has_of_fair he hn fun other hother ↦ ⟨by simp [namespaceKey], fun hsame ↦ ?_⟩,
      fun hm ↦ hlasting ((Event.mem_terminating_apply e s _).mp hm).1⟩
    simp only [namespaceKey, Key.mk.injEq, Name.text.injEq, true_and] at hsame
    exact hlasting (hsame ▸ hother)

/-- No object of the tenant is left. -/
def Vacant (ns : String) (s : Store) : Prop := ∀ o ∈ s.objects, ¬ Owns ns o.1

/-- Without its namespace nothing of a tenant is left. -/
theorem Ordered.vacant (h : Ordered s) (hns : s.has (namespaceKey (.text ns)) = false) :
    Vacant ns s := by
  have hrole : s.has (clusterRoleKey ns) ≠ true := by
    intro hr
    rw [(h.ruled ns hr).1] at hns
    cases hns
  intro o ho howns
  have hhas := Cluster.Store.has_of_mem ho
  rcases howns with hin | hkey | hkey | hkey
  · exact h.housed.vacant hns ho hin
  · rw [hkey, hns] at hhas
    cases hhas
  · exact hrole (hkey ▸ hhas)
  · exact hrole (h.bound ns (hkey ▸ hhas)).1

/-! ## Stores with an object more or less -/

variable {kind : Kind} {key : Key}

/-- An object can be added where it rests on what is there. -/
theorem Ordered.insert (h : Ordered s) (ha : s.Admits kind key) (object : Json)
    (hb : ∀ ns, key = clusterRoleBindingKey ns →
      s.has (clusterRoleKey ns) = true ∧ s.has (accountKey ns) = true)
    (hr : ∀ ns, key = clusterRoleKey ns →
      s.has (namespaceKey (.text ns)) = true ∧ .text ns ∉ s.terminating) :
    Ordered (s.insert key object) where
  housed := h.housed.insert ha object
  candid := h.candid
  bound ns hbinding := by
    rw [Cluster.Store.has_insert] at hbinding ⊢
    rw [Cluster.Store.has_insert]
    have hboth : s.has (clusterRoleKey ns) = true ∧ s.has (accountKey ns) = true := by
      rcases hbinding with hold | hnew
      · exact h.bound ns hold
      · exact hb ns hnew.symm
    exact ⟨.inl hboth.1, .inl hboth.2⟩
  ruled ns hrole := by
    rw [Cluster.Store.has_insert] at hrole ⊢
    have hboth : s.has (namespaceKey (.text ns)) = true ∧ .text ns ∉ s.terminating := by
      rcases hrole with hold | hnew
      · exact h.ruled ns hold
      · exact hr ns hnew.symm
    exact ⟨.inl hboth.1, hboth.2⟩

/-- An object can be erased where nothing rests on it. -/
theorem Ordered.erase (h : Ordered s) (hnamespace : key.kind ≠ Kind.namespaces.name)
    (haccount : key.kind ≠ Kind.serviceAccounts.name)
    (hrole : ∀ ns, key = clusterRoleKey ns → s.has (clusterRoleBindingKey ns) = false) :
    Ordered (s.erase key) where
  housed := by
    intro other hother ns hns
    rw [Cluster.Store.has_erase] at hother ⊢
    exact ⟨h.housed other hother.1 ns hns, fun he ↦ hnamespace (he ▸ rfl)⟩
  candid := h.candid
  bound ns hb := by
    rw [Cluster.Store.has_erase] at hb ⊢
    rw [Cluster.Store.has_erase]
    obtain ⟨hr, ha⟩ := h.bound ns hb.1
    refine ⟨⟨hr, fun he ↦ ?_⟩, ha, fun he ↦ haccount (he ▸ rfl)⟩
    have habsent := hrole ns he.symm
    rw [hb.1] at habsent
    cases habsent
  ruled ns hr := by
    rw [Cluster.Store.has_erase] at hr ⊢
    obtain ⟨hn, hlasting⟩ := h.ruled ns hr.1
    exact ⟨⟨hn, fun he ↦ hnamespace (he ▸ rfl)⟩, hlasting⟩

/-- A namespace can be dropped, or marked as terminating, where no role rests on it. -/
theorem Ordered.removeNamespace (h : Ordered s) (hrole : s.has (clusterRoleKey ns) = false) :
    Ordered (s.remove Kind.namespaces (namespaceKey (.text ns))) := by
  have hother {other : String} (hr : s.has (clusterRoleKey other) = true) : other ≠ ns := by
    rintro rfl
    rw [hrole] at hr
    cases hr
  unfold Store.remove
  rw [if_pos rfl]
  cases s.holding with
  | true =>
    refine ⟨h.housed, h.candid, h.bound, fun other hr ↦ ⟨(h.ruled other hr).1, fun hm ↦ ?_⟩⟩
    rcases (Cluster.Store.mem_terminating_terminate s _ _).mp hm with hm | hsame
    · exact (h.ruled other hr).2 hm
    · exact hother hr (Name.text.inj hsame)
  | false =>
    refine ⟨h.housed.dropNamespace _, h.candid, fun other hb ↦ ?_, fun other hr ↦ ?_⟩
    · have hb := ((Cluster.Store.has_dropNamespace s _ _).mp hb).1
      obtain ⟨hr, ha⟩ := h.bound other hb
      have hne := hother hr
      refine ⟨(Cluster.Store.has_dropNamespace s _ _).mpr ⟨hr, ?_, ?_⟩,
        (Cluster.Store.has_dropNamespace s _ _).mpr ⟨ha, ?_, ?_⟩⟩
      · simp [clusterRoleKey]
      · exact clusterRoleKey_ne_namespaceKey other _
      · simpa [accountKey, namespaceKey] using hne
      · exact accountKey_ne_namespaceKey other _
    · have hr := ((Cluster.Store.has_dropNamespace s _ _).mp hr).1
      have hne := hother hr
      obtain ⟨hn, hlasting⟩ := h.ruled other hr
      refine ⟨(Cluster.Store.has_dropNamespace s _ _).mpr ⟨hn, ?_, ?_⟩, hlasting⟩
      · simp [namespaceKey]
      · simpa [namespaceKey] using hne

/-- The order says nothing about the counter and the log. -/
theorem Ordered.noted (h : Ordered s) (generated : Nat) (log : List Cluster.LogEntry) :
    Ordered (s.noted generated log) := ⟨h.housed, h.candid, h.bound, h.ruled⟩

/-! ## Neutral calls -/

/-- The kinds that the order is about. -/
def vitalKinds : List String :=
  [Kind.namespaces.name, Kind.serviceAccounts.name, Kind.clusterRoles.name,
    Kind.clusterRoleBindings.name]

/-- A call that neither creates what rests on something nor deletes anything that the order is
about. -/
def IsNeutral : Call → Prop
  | .create kind _ => kind.name ≠ Kind.clusterRoles.name ∧ kind.name ≠ Kind.clusterRoleBindings.name
  | .delete kind _ _ => kind.name ∉ vitalKinds
  | .get _ _ _ | .list _ _ => True

/-- What an assertion may be about so that neutral calls keep it: vital objects that are there and
namespaces that are not terminating. -/
def Lasting (A : Store → Prop) : Prop :=
  ∀ ⦃s t : Store⦄, t.terminating = s.terminating →
    (∀ key, key.kind ∈ vitalKinds → s.has key = true → t.has key = true) → A s → A t

/-- A neutral call keeps the order, and every lasting assertion. -/
theorem Ordered.neutral (h : Ordered s) {c : Call} (hc : IsNeutral c) :
    Ordered (handle c s).2 ∧ ∀ A, Lasting A → A s → A (handle c s).2 := by
  rcases Cluster.Store.handle_cases c s with ⟨after, log, he⟩ |
    ⟨kind, manifest, name, ns, object, after, log, key, rfl, hd, hk, ha, he⟩ |
    ⟨kind, name, ns, log, key, rfl, hk, hh, he⟩
  · rw [he]
    exact ⟨h.noted after log, fun A hA ↦ hA rfl fun _ _ hkey ↦ hkey⟩
  · rw [he]
    have hkind := (Cluster.Store.keyOf_eq_some hk).2.1
    refine ⟨(h.noted after log).insert (ha.noted after log) object (fun ns hkey ↦ ?_)
      fun ns hkey ↦ ?_, fun A hA ↦ hA rfl fun other _ hother ↦ ?_⟩
    · exact absurd (by rw [← hkind, hkey]; rfl) hc.2
    · exact absurd (by rw [← hkind, hkey]; rfl) hc.1
    · rw [Cluster.Store.has_insert]
      exact .inl hother
  · rw [he]
    have hkind := (Cluster.Store.keyOf_eq_some hk).2.1
    have hnot (vital : String) (hvital : vital ∈ vitalKinds) : key.kind ≠ vital :=
      fun hsame ↦ hc (hkind ▸ hsame ▸ hvital)
    have hother : kind ≠ Kind.namespaces := by
      rintro rfl
      exact hc (by decide)
    simp only [Store.remove, if_neg hother]
    refine ⟨(h.noted s.generated log).erase (hnot _ (by decide)) (hnot _ (by decide))
      fun ns hkey ↦ ?_, fun A hA ↦ hA rfl fun other hvital hother ↦ ?_⟩
    · exact absurd (by rw [hkey]; rfl) (hnot Kind.clusterRoles.name (by decide))
    · rw [Cluster.Store.has_erase]
      exact ⟨hother, fun hsame ↦ hnot _ hvital (hsame ▸ rfl)⟩

end TenantBroker.Tenant
