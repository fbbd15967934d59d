import TenantBroker.Proofs.Cluster.Event
import TenantBroker.Proofs.Pipeline.Conduct
import TenantBroker.Proofs.Tenant.Parts

/-!
# Tenants apart

No key belongs to two tenants. The calls of a pipeline concern one tenant, and whatever comes of
them is confined to it: all objects that do not belong to the tenant and the marks of all other
namespaces stay as they are. So do they when phases are set or a termination ends in the namespace.
-/

namespace TenantBroker.Tenant

open Cluster (Call Key Kind Name Program Store keyOf namespaceKey)
open Cluster.Program
open Cluster.Store (handle)

variable {ns other username : String} {config : Config} {variant : Variant} {s t : Store}

/-! ## What belongs to one tenant -/

/-- A key belongs to one tenant at most. -/
theorem owns_unique {key : Key} (h : Owns ns key) (h' : Owns other key) : ns = other := by
  rcases h with hin | rfl | rfl | rfl
  · rcases h' with hin' | rfl | rfl | rfl
    · simpa [hin] using hin'
    · cases hin
    · cases hin
    · cases hin
  · rcases h' with hin' | hkey | hkey | hkey
    · cases hin'
    · simpa [namespaceKey] using hkey
    · simp [namespaceKey, clusterRoleKey, Kind.namespaces, Kind.clusterRoles] at hkey
    · simp [namespaceKey, clusterRoleBindingKey, Kind.namespaces, Kind.clusterRoleBindings] at hkey
  · rcases h' with hin' | hkey | hkey | hkey
    · cases hin'
    · exact absurd hkey (clusterRoleKey_ne_namespaceKey _ _)
    · exact clusterRoleKey_inj.mp hkey
    · simp [clusterRoleKey, clusterRoleBindingKey, Kind.clusterRoles, Kind.clusterRoleBindings]
        at hkey
  · rcases h' with hin' | hkey | hkey | hkey
    · cases hin'
    · simp [namespaceKey, clusterRoleBindingKey, Kind.namespaces, Kind.clusterRoleBindings] at hkey
    · simp [clusterRoleKey, clusterRoleBindingKey, Kind.clusterRoles, Kind.clusterRoleBindings]
        at hkey
    · exact clusterRoleBindingKey_inj.mp hkey

/-- A tenant has the same objects in two stores, and the same mark on its namespace. -/
structure Untouched (ns : String) (s t : Store) : Prop where
  objects : owned ns t = owned ns s
  terminating : .text ns ∈ t.terminating ↔ .text ns ∈ s.terminating

/-- The objects that do not belong to a tenant. -/
def outside (ns : String) (s : Store) : List (Key × Json) := s.objects.filter fun o ↦ ¬ Owns ns o.1

/-- Two stores agree on everything but a tenant: on the objects that do not belong to it, and on the
marks of all other namespaces. -/
structure Confined (ns : String) (s t : Store) : Prop where
  objects : outside ns t = outside ns s
  terminating : ∀ name, name ≠ .text ns → (name ∈ t.terminating ↔ name ∈ s.terminating)

/-- Where nothing happens nothing does outside a tenant. -/
theorem Confined.refl (ns : String) (s : Store) : Confined ns s s := ⟨rfl, fun _ _ ↦ Iff.rfl⟩

/-- What is confined to a tenant twice is confined to it. -/
theorem Confined.trans {u : Store} (h : Confined ns s t) (h' : Confined ns t u) :
    Confined ns s u :=
  ⟨h'.objects.trans h.objects, fun name hname ↦
    (h'.terminating name hname).trans (h.terminating name hname)⟩

/-- What is confined to one tenant touches no other. -/
theorem Confined.untouched (h : Confined ns s t) (hne : other ≠ ns) : Untouched other s t := by
  have howned (u : Store) : owned other u = (outside ns u).filter fun o ↦ Owns other o.1 := by
    unfold owned outside
    rw [List.filter_filter]
    apply List.filter_congr
    intro o _
    by_cases howns : Owns other o.1
    · have hnot : ¬ Owns ns o.1 := fun h' ↦ hne (owns_unique howns h')
      simp [howns, hnot]
    · simp [howns]
  refine ⟨?_, h.terminating _ fun hsame ↦ hne (Name.text.inj hsame)⟩
  rw [howned, howned, h.objects]

/-! ## Calls that concern one tenant -/

/-- A call that can create or delete objects of one tenant only. -/
def Concerns (ns : String) : Call → Prop
  | .create kind manifest => ∀ generated name place object after key,
      Store.draft generated kind manifest = (.ok (name, place, object), after) →
        keyOf kind name place = .ok (some key) → Owns ns key
  | .delete kind name place => ∀ key, keyOf kind name place = .ok (some key) → Owns ns key
  | .get _ _ _ | .list _ _ => True

private theorem outside_filter {keep : Key → Bool} (h : ∀ key, ¬ Owns ns key → keep key = true)
    (s : Store) :
    outside ns { s with objects := s.objects.filter fun o ↦ keep o.1 } = outside ns s := by
  unfold outside
  rw [List.filter_filter]
  apply List.filter_congr
  intro o _
  by_cases howned : Owns ns o.1
  · simp [howned]
  · simp [howned, h o.1 howned]

/-- Dropping the namespace of a tenant is confined to it. -/
theorem confined_dropNamespace (ns : String) (s : Store) :
    Confined ns s (s.dropNamespace (.text ns)) := by
  have hkeep (key : Key) (h : ¬ Owns ns key) :
      decide (key.ns ≠ some (.text ns) ∧ key ≠ namespaceKey (.text ns)) = true :=
    decide_eq_true ⟨fun hin ↦ h (.inl hin), fun hsame ↦ h (.inr (.inl hsame))⟩
  exact ⟨outside_filter hkeep s, fun _ _ ↦ Iff.rfl⟩

private theorem confined_remove {kind : Kind} {key : Key} (howned : Owns ns key)
    (hkind : key.kind = kind.name) (hwide : kind.namespaced = false → key.ns = none) :
    Confined ns s (s.remove kind key) := by
  unfold Store.remove
  -- Only the removal of a namespace reaches beyond its key.
  by_cases hns : kind = Kind.namespaces
  · subst hns
    have hkey : key = namespaceKey (.text ns) := by
      rcases howned with hin | hkey | rfl | rfl
      · rw [hwide rfl] at hin
        cases hin
      · exact hkey
      · exact absurd hkind (by simp only [clusterRoleKey]; decide)
      · exact absurd hkind (by simp only [clusterRoleBindingKey]; decide)
    subst hkey
    rw [if_pos rfl]
    cases s.holding with
    | true =>
      refine ⟨rfl, fun name hname ↦ ?_⟩
      simp only [if_true, Cluster.Store.mem_terminating_terminate, Cluster.name_namespaceKey, hname,
        or_false]
    | false => exact confined_dropNamespace ns s
  · rw [if_neg hns]
    have hkeep (key' : Key) (h : ¬ Owns ns key') : decide (key' ≠ key) = true :=
      decide_eq_true fun hsame ↦ h (hsame ▸ howned)
    exact ⟨outside_filter hkeep s, fun _ _ ↦ Iff.rfl⟩

/-- A call that concerns one tenant is confined to it. -/
theorem confined_handle {c : Call} (h : Concerns ns c) (s : Store) :
    Confined ns s (handle c s).2 := by
  rcases Cluster.Store.handle_cases c s with ⟨after, log, he⟩ |
    ⟨kind, manifest, name, place, object, after, log, key, rfl, hd, hk, ha, he⟩ |
    ⟨kind, name, place, log, key, rfl, hk, hh, he⟩
  · rw [he]
    exact ⟨rfl, fun _ _ ↦ Iff.rfl⟩
  · have howned := h _ _ _ _ _ _ hd hk
    rw [he]
    refine ⟨?_, fun _ _ ↦ Iff.rfl⟩
    simp [outside, Store.insert, List.filter_append, howned]
  · obtain ⟨-, hkind, hplace⟩ := Cluster.Store.keyOf_eq_some hk
    have hwide (hnone : kind.namespaced = false) : key.ns = none := by
      simpa [hnone] using hplace
    have hremove := confined_remove (s := s.noted s.generated log) (h key hk) hkind hwide
    rw [he]
    exact ⟨hremove.objects, hremove.terminating⟩

/-- A program whose calls concern one tenant is confined to it. -/
theorem confined_run {α : Type} {p : Program α} (h : p.Only (Concerns ns)) (s : Store) :
    Confined ns s (p.run handle s).2 :=
  run_of_only (I := Confined ns s) (fun _ hc t hs ↦ hs.trans (confined_handle hc t)) h
    (.refl ns s)

/-! ## Events in a namespace -/

/-- Setting phases in the namespace of a tenant is confined to it. -/
theorem confined_setPhase (ns kind : String) (phase : Json) (s : Store) :
    Confined ns s (s.setPhase kind (.str ns) phase).2 := by
  refine ⟨Cluster.Store.filter_withPhases (fun key ↦ ¬ Owns ns key) ?_ s.objects,
    fun _ _ ↦ Iff.rfl⟩
  rintro key houtside ⟨-, hin⟩
  simp only [Name.isNamedBy, Name.ofJson_str, decide_eq_true_eq] at hin
  exact of_decide_eq_true houtside (.inl hin)

/-- The end of a termination is confined to the tenant. -/
theorem confined_finish (ns : String) (s : Store) : Confined ns s (s.finish (.str ns)).2 := by
  let unmarked : Store := { s with terminating := s.terminating.filter (· ≠ .text ns) }
  have hdrop := confined_dropNamespace ns unmarked
  refine ⟨hdrop.objects, fun name hname ↦ (hdrop.terminating name hname).trans ?_⟩
  simp [unmarked, hname]

/-! ## The pipelines of a tenant -/

/-- Making a tenant concerns this tenant. -/
theorem concerns_provisionSteps (hns : ns ≠ "") :
    ∀ step ∈ provisionSteps ns username config variant, step.Makes (Concerns ns) := by
  intro step hstep
  obtain ⟨part, hpart, rfl⟩ := mem_provisionSteps.mp hstep
  intro manifest hm generated name place object after key hd hk
  obtain rfl : part.2 = manifest := Option.some.inj hm
  exact ((isPart_of_mem hpart).made_of_draft hns hd hk).owns (isPart_of_mem hpart)

/-- Removing a tenant concerns this tenant. -/
theorem concerns_deprovisionSteps (ns : String) :
    ∀ step ∈ deprovisionSteps ns, step.Makes (Concerns ns) := by
  have hin (kind : Kind) (hkind : kind.namespaced = true) (name : Json) :
      Concerns ns (.delete kind name (.str ns)) := by
    intro key hk
    have hplace := (Cluster.Store.keyOf_eq_some hk).2.2
    rw [hkind, if_pos rfl, Name.ofJson_str, Except.ok.injEq] at hplace
    exact .inl hplace.symm
  simp only [deprovisionSteps, recordKinds, List.map_cons, List.map_nil, List.cons_append,
    List.nil_append, List.forall_mem_cons, List.not_mem_nil, false_imp_iff, implies_true, and_true]
  refine ⟨⟨trivial, hin Kind.users rfl⟩, ⟨trivial, hin Kind.developments rfl⟩, ?_, ?_, ?_⟩
  · intro key hk
    exact .inr (.inr (.inr (Option.some.inj (Except.ok.inj hk)).symm))
  · intro key hk
    exact .inr (.inr (.inl (Option.some.inj (Except.ok.inj hk)).symm))
  · intro key hk
    exact .inr (.inl (Option.some.inj (Except.ok.inj hk)).symm)

end TenantBroker.Tenant
