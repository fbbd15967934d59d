import TenantBroker.Proofs.Pipeline.Success
import TenantBroker.Proofs.Tenant.Parts

/-!
# Removing a tenant without hindrance

Without injected failures the removal of a tenant succeeds in every labelled store, whatever is
left of the tenant. In a housed store that holds no deletions back it takes away all objects of the
tenant, and nothing else.
-/

namespace TenantBroker.Tenant

open Cluster (Key Kind Name Store namespaceKey)
open Cluster.Program
open Cluster.Store (handle)
open Pipeline (Step runAction runPipeline)

/-- What a removal takes away one by one: the tenant's own records, and the binding and the role
that live outside the namespace. -/
def isCleared (ns : String) (key : Key) : Bool :=
  (key.kind ∈ recordKinds.map (·.name) ∧ key.ns = some (.text ns)) ∨
    key = clusterRoleBindingKey ns ∨ key = clusterRoleKey ns

/-- The store after a removal. -/
def removed (ns : String) (s : Store) : Store :=
  if s.has (namespaceKey (.text ns)) = true
  then (s.without (isCleared ns)).remove Kind.namespaces (namespaceKey (.text ns))
  else s.without (isCleared ns)

variable {s : Store} {ns : String}

/-- A namespace is not cleared, only removed. -/
theorem isCleared_namespaceKey (ns : String) (name : Name) :
    isCleared ns (namespaceKey name) = false := by
  refine decide_eq_false ?_
  rintro (⟨-, hin⟩ | hkey | hkey)
  · cases hin
  · refine absurd (congrArg Key.kind hkey) ?_
    simp only [clusterRoleBindingKey, namespaceKey]
    decide
  · exact clusterRoleKey_ne_namespaceKey ns name hkey.symm

/-- What belongs to a tenant is cleared or goes with its namespace. -/
theorem owns_iff (ns : String) (key : Key) :
    Owns ns key ↔
      isCleared ns key = true ∨ key.ns = some (.text ns) ∨ key = namespaceKey (.text ns) := by
  constructor
  · rintro (hin | hkey | hkey | hkey)
    · exact .inr (.inl hin)
    · exact .inr (.inr hkey)
    · exact .inl (decide_eq_true (.inr (.inr hkey)))
    · exact .inl (decide_eq_true (.inr (.inl hkey)))
  · rintro (hcleared | hin | hkey)
    · rcases of_decide_eq_true hcleared with ⟨-, hin⟩ | hkey | hkey
      · exact .inl hin
      · exact .inr (.inr (.inr hkey))
      · exact .inr (.inr (.inl hkey))
    · exact .inl hin
    · exact .inr (.inl hkey)

/-- A removal clears the tenant, and where its namespace is there it also drops the namespace, or
marks it as terminating if deletions are held back. -/
theorem removed_cases (ns : String) (s : Store) :
    s.has (namespaceKey (.text ns)) = false ∧ removed ns s = s.without (isCleared ns) ∨
    s.has (namespaceKey (.text ns)) = true ∧ s.holding = true ∧
      removed ns s = (s.without (isCleared ns)).terminate (.text ns) ∨
    s.has (namespaceKey (.text ns)) = true ∧ s.holding = false ∧
      removed ns s = (s.without (isCleared ns)).dropNamespace (.text ns) := by
  unfold removed
  cases s.has (namespaceKey (.text ns)) with
  | false => exact .inl ⟨rfl, rfl⟩
  | true =>
    rw [if_pos rfl, Store.remove, if_pos rfl, Cluster.Store.holding_without]
    cases s.holding with
    | true => exact .inr (.inl ⟨rfl, rfl, rfl⟩)
    | false => exact .inr (.inr ⟨rfl, rfl, rfl⟩)

private theorem has_without_namespaceKey (s : Store) (ns : String) (name : Name) :
    (s.without (isCleared ns)).has (namespaceKey name) = s.has (namespaceKey name) := by
  rw [Bool.eq_iff_iff, Cluster.Store.has_without]
  simp [isCleared_namespaceKey]

/-! ## Steps that take keys away -/

/-- In every labelled store that nothing hinders the step takes some keys away. -/
def Takes (gone : Key → Bool) (step : Step) : Prop :=
  ∀ s : Store, s.Labelled → s.failures = [] →
    ∃ log, Succeeds handle (runAction step) s ((s.without gone).noted s.generated log)

/-- Deleting all records of a kind takes away their keys. -/
theorem takes_deleteAll {kind : Kind} (hplain : kind ≠ Kind.namespaces)
    (hnamespaced : kind.namespaced = true) (ns : String) :
    Takes (fun key ↦ key.kind = kind.name ∧ key.ns = some (.text ns))
      (Step.deleteAll kind (.str ns)) :=
  fun _ h hf ↦ Pipeline.succeeds_deleteAll h hplain hnamespaced
    (Cluster.Store.failure?_eq_none hf _ _) (Cluster.Store.failure?_eq_none hf _ _)

/-- Deleting a cluster-wide object takes away its key. -/
theorem takes_delete {kind : Kind} (hplain : kind ≠ Kind.namespaces)
    (hwide : kind.namespaced = false) (name : String) :
    Takes (· = ⟨kind.name, none, .text name⟩) (Step.delete kind (.str name) .null) := by
  intro s _ hf
  have hk : Cluster.keyOf kind (.str name) .null = .ok (some ⟨kind.name, none, .text name⟩) := by
    simp only [Cluster.keyOf, hwide]
    rfl
  have hnone := Cluster.Store.failure?_eq_none hf .delete kind
  obtain ⟨log, hgone, hafter⟩ := Cluster.Store.delete_plain hnone hplain hk
  exact ⟨log, Pipeline.succeeds_delete hgone hafter⟩

/-- Steps that take keys away can be put before a pipeline that runs on what they leave. -/
theorem succeeds_takes_append (instanceId : String) (steps : List (Step × (Key → Bool)))
    (hlabel : ∀ step ∈ steps, step.1.manifest = none)
    (htakes : ∀ step ∈ steps, Takes step.2 step.1) (h : s.Labelled) (hf : s.failures = []) :
    ∃ log, ∀ rest u,
      Succeeds handle (runPipeline instanceId rest)
        ((s.without fun key ↦ steps.any (·.2 key)).noted s.generated log) u →
      Succeeds handle (runPipeline instanceId (steps.map (·.1) ++ rest)) s u := by
  induction steps generalizing s with
  | nil =>
    refine ⟨s.log, fun rest u hrest ↦ ?_⟩
    have hnone : (s.without fun key ↦ ([] : List (Step × (Key → Bool))).any (·.2 key)) = s :=
      Cluster.Store.without_eq_self fun o _ ↦ rfl
    rw [hnone] at hrest
    exact hrest
  | cons step others ih =>
    obtain ⟨label, hlab⟩ := Pipeline.label_of_no_manifest _ (hlabel step List.mem_cons_self)
    obtain ⟨first, hstep⟩ := htakes step List.mem_cons_self s h hf
    obtain ⟨log, hothers⟩ := ih (s := (s.without step.2).noted s.generated first)
      (fun other hother ↦ hlabel other (List.mem_cons_of_mem _ hother))
      (fun other hother ↦ htakes other (List.mem_cons_of_mem _ hother))
      (h.mono fun o ho ↦ (List.mem_filter.mp ho).1) hf
    refine ⟨log, fun rest u hrest ↦ ?_⟩
    refine Pipeline.succeeds_runPipeline_cons hlab hstep (hothers rest u ?_)
    have hkeys : (s.without step.2).without (fun key ↦ others.any (·.2 key)) =
        s.without fun key ↦ (step :: others).any (·.2 key) :=
      Cluster.Store.without_without s step.2 _
    rw [← hkeys] at hrest
    exact hrest

/-! ## The removal -/

/-- The steps before the namespace is deleted, and what each of them takes away. -/
private def clearingSteps (ns : String) : List (Step × (Key → Bool)) := [
  (Step.deleteAll Kind.users (.str ns), fun key ↦
    key.kind = Kind.users.name ∧ key.ns = some (.text ns)),
  (Step.deleteAll Kind.developments (.str ns), fun key ↦
    key.kind = Kind.developments.name ∧ key.ns = some (.text ns)),
  (Step.delete Kind.clusterRoleBindings (.str (clusterScopedName ns)) .null,
    (· = clusterRoleBindingKey ns)),
  (Step.delete Kind.clusterRoles (.str (clusterScopedName ns)) .null, (· = clusterRoleKey ns))]

private theorem any_clearingSteps (ns : String) (key : Key) :
    (clearingSteps ns).any (·.2 key) = isCleared ns key := by
  simp [clearingSteps, isCleared, recordKinds, or_and_right, or_assoc]

private theorem takes_clearingSteps (ns : String) :
    ∀ step ∈ clearingSteps ns, step.1.manifest = none ∧ Takes step.2 step.1 := by
  simp only [clearingSteps, List.forall_mem_cons, List.not_mem_nil, false_imp_iff, implies_true,
    and_true]
  refine ⟨⟨rfl, ?_⟩, ⟨rfl, ?_⟩, ⟨rfl, ?_⟩, rfl, ?_⟩
  · exact takes_deleteAll (by decide) rfl ns
  · exact takes_deleteAll (by decide) rfl ns
  · exact takes_delete (by decide) rfl (clusterScopedName ns)
  · exact takes_delete (by decide) rfl (clusterScopedName ns)

/-- Without injected failures the removal of a tenant succeeds in every labelled store. -/
theorem succeeds_deprovisionSteps (h : s.Labelled) (hf : s.failures = []) (instanceId ns : String) :
    ∃ log, Succeeds handle (runPipeline instanceId (deprovisionSteps ns)) s
      ((removed ns s).noted s.generated log) := by
  obtain ⟨first, hclear⟩ := succeeds_takes_append instanceId (clearingSteps ns)
    (fun step hstep ↦ (takes_clearingSteps ns step hstep).1)
    (fun step hstep ↦ (takes_clearingSteps ns step hstep).2) h hf
  simp only [any_clearingSteps] at hclear
  have hnone := Cluster.Store.failure?_eq_none hf .delete Kind.namespaces
  obtain ⟨log, hgone, hafter⟩ := Cluster.Store.delete_namespace
    (s := (s.without (isCleared ns)).noted s.generated first) hnone ns
  obtain ⟨label, hlabel⟩ := Pipeline.label_of_no_manifest
    (Step.delete Kind.namespaces (.str ns) .null) rfl
  refine ⟨log, hclear [Step.delete Kind.namespaces (.str ns) .null] _ ?_⟩
  refine Pipeline.succeeds_runPipeline_cons hlabel (Pipeline.succeeds_delete hgone hafter) ?_
  have hremoved : (removed ns s).noted s.generated log =
      if ((s.without (isCleared ns)).noted s.generated first).has (namespaceKey (.text ns)) = true
      then (((s.without (isCleared ns)).noted s.generated first).noted s.generated log).remove
        Kind.namespaces (namespaceKey (.text ns))
      else ((s.without (isCleared ns)).noted s.generated first).noted s.generated log := by
    rw [Cluster.Store.has_noted, has_without_namespaceKey, removed]
    split
    · unfold Store.remove
      rw [if_pos rfl, if_pos rfl]
      cases hh : s.holding with
      | true => simp [hh]; rfl
      | false => simp [hh]; rfl
    · rfl
  rw [hremoved]
  exact Pipeline.succeeds_runPipeline_nil _ _

/-! ## What is left after it -/

/-- In a housed store that holds no deletions back a removal takes away exactly what belongs to the
tenant. -/
theorem objects_removed (h : s.Housed) (hhold : s.holding = false) (ns : String) :
    (removed ns s).objects = s.objects.filter fun o ↦ ¬ Owns ns o.1 := by
  rcases removed_cases ns s with ⟨habsent, he⟩ | ⟨-, hheld, -⟩ | ⟨-, -, he⟩
  · rw [he]
    apply List.filter_congr
    intro o ho
    have houtside : o.1.ns ≠ some (.text ns) := h.vacant habsent ho
    have hother : o.1 ≠ namespaceKey (.text ns) := by
      intro hkey
      rw [← hkey, Cluster.Store.has_of_mem ho] at habsent
      cases habsent
    rw [Bool.eq_iff_iff]
    simp [owns_iff, houtside, hother]
  · rw [hhold] at hheld
    cases hheld
  · rw [he, Cluster.Store.dropNamespace_eq_without, Cluster.Store.without_without]
    apply List.filter_congr
    intro o _
    rw [Bool.eq_iff_iff]
    simp [owns_iff]

/-- A removal keeps the store housed. -/
theorem housed_removed (h : s.Housed) (ns : String) : (removed ns s).Housed := by
  have hcleared := h.without (isCleared_namespaceKey ns)
  rcases removed_cases ns s with ⟨-, he⟩ | ⟨-, -, he⟩ | ⟨-, -, he⟩
  · exact he ▸ hcleared
  · exact he ▸ hcleared
  · exact he ▸ hcleared.dropNamespace (.text ns)

/-- A removal adds nothing. -/
theorem mem_of_mem_removed {o : Key × Json} (h : o ∈ (removed ns s).objects) : o ∈ s.objects := by
  rcases removed_cases ns s with ⟨-, he⟩ | ⟨-, -, he⟩ | ⟨-, -, he⟩
  · rw [he] at h
    exact (List.mem_filter.mp h).1
  · rw [he] at h
    exact (List.mem_filter.mp h).1
  · rw [he] at h
    exact (List.mem_filter.mp (List.mem_filter.mp h).1).1

/-- A removal injects no failure and does not change whether deletions are held back. -/
theorem settings_removed (ns : String) (s : Store) :
    (removed ns s).failures = s.failures ∧ (removed ns s).holding = s.holding := by
  rcases removed_cases ns s with ⟨-, he⟩ | ⟨-, -, he⟩ | ⟨-, -, he⟩
  · exact he ▸ ⟨rfl, rfl⟩
  · exact he ▸ ⟨rfl, rfl⟩
  · exact he ▸ ⟨rfl, rfl⟩

end TenantBroker.Tenant
