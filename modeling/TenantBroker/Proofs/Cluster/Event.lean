import TenantBroker.Proofs.Cluster.Effects

/-!
# Events on a cluster

What happens to the cluster without a call: failures are injected or cleared, deletions of
namespaces are held back or let through, the termination of a namespace ends, and an operator sets
the phase of records. No event adds an object, and only the end of a termination removes any.
-/

namespace TenantBroker.Cluster

/-- Something that happens to the cluster without a call. -/
inductive Event where
  | fail (action : Action) (kind : String) (failure : Failure)
  | clearFailures
  | hold (value : Bool)
  | finish (ns : String)
  | setPhase (kind ns : String) (phase : Json)

/-- What an event makes of the cluster. -/
def Event.apply : Event → Store → Store
  | .fail action kind failure, s => s.fail action kind failure
  | .clearFailures, s => s.clearFailures
  | .hold value, s => s.hold value
  | .finish ns, s => (s.finish (.str ns)).2
  | .setPhase kind ns phase, s => (s.setPhase kind (.str ns) phase).2

namespace Store

/-- Setting phases keeps the keys and their order. -/
theorem keys_withPhases (kind : String) (ns phase : Json) (objects : List (Key × Json)) :
    (withPhases kind ns phase objects).2.map (·.1) = objects.map (·.1) := by
  induction objects with
  | nil => rfl
  | cons o rest ih =>
    simp only [withPhases]
    split
    · cases withPhase phase o.2 with
      | error d => rfl
      | ok object => simpa using ih
    · simpa using ih

private theorem eq_obj_of_fields {value : Json} {fields : List (String × Json)}
    (h : value.fields = .ok fields) : value = .obj fields := by
  cases value <;> simp_all [Json.fields]

/-- Setting the phase keeps the metadata. -/
theorem metadata_withPhase {phase object changed : Json}
    (h : withPhase phase object = .ok changed) : changed.metadata = object.metadata := by
  simp only [withPhase, bind_eq_ok_iff] at h
  obtain ⟨fields, hfields, h⟩ := h
  obtain rfl := eq_obj_of_fields hfields
  split at h
  · next status =>
    rw [Except.ok.injEq] at h
    subst h
    have hget (value : Json) : Json.field? (Json.setField fields "status" value) "metadata" =
        Json.field? fields "metadata" := Json.field?_setField_of_ne _ _ (by decide)
    simp only [Json.metadata, Json.get, Json.getD, Json.fields, Except.map, hget]
  · cases h

/-- An object after setting phases has the key and the metadata of one before. -/
theorem mem_withPhases {kind : String} {ns phase : Json} {objects : List (Key × Json)}
    {o : Key × Json} (h : o ∈ (withPhases kind ns phase objects).2) :
    ∃ before ∈ objects, before.1 = o.1 ∧ o.2.metadata = before.2.metadata := by
  induction objects with
  | nil => simp [withPhases] at h
  | cons first rest ih =>
    have keep (hrest : o ∈ (withPhases kind ns phase rest).2) :
        ∃ before ∈ first :: rest, before.1 = o.1 ∧ o.2.metadata = before.2.metadata := by
      obtain ⟨before, hmem, hsame⟩ := ih hrest
      exact ⟨before, List.mem_cons_of_mem _ hmem, hsame⟩
    simp only [withPhases] at h
    split at h
    · cases hw : withPhase phase first.2 with
      | error d =>
        simp only [hw] at h
        exact ⟨o, h, rfl, rfl⟩
      | ok changed =>
        simp only [hw, List.mem_cons] at h
        rcases h with rfl | hrest
        · exact ⟨first, List.mem_cons_self, rfl, metadata_withPhase hw⟩
        · exact keep hrest
    · rcases List.mem_cons.mp h with rfl | hrest
      · exact ⟨_, List.mem_cons_self, rfl, rfl⟩
      · exact keep hrest

/-- Setting phases keeps the objects that it does not reach. -/
theorem filter_withPhases {kind : String} {ns phase : Json} (keep : Key → Bool)
    (h : ∀ key, keep key = true → ¬ (key.kind = kind ∧ Name.isNamedBy key.ns ns))
    (objects : List (Key × Json)) :
    (withPhases kind ns phase objects).2.filter (fun o ↦ keep o.1) =
      objects.filter fun o ↦ keep o.1 := by
  induction objects with
  | nil => rfl
  | cons o rest ih =>
    simp only [withPhases]
    split
    · next hreached =>
      have hapart : ¬ keep o.1 = true := fun hkeep ↦ h o.1 hkeep hreached
      cases withPhase phase o.2 with
      | error d => rfl
      | ok object => simp [hapart, ih]
    · rw [List.filter_cons, List.filter_cons, ih]

/-- What setting phases comes to is up to the objects that it reaches. -/
theorem withPhases_filter {kind : String} {ns phase : Json} (keep : Key → Bool)
    (h : ∀ key, key.kind = kind ∧ Name.isNamedBy key.ns ns → keep key = true)
    (objects : List (Key × Json)) :
    withPhases kind ns phase (objects.filter fun o ↦ keep o.1) =
      ((withPhases kind ns phase objects).1,
        (withPhases kind ns phase objects).2.filter fun o ↦ keep o.1) := by
  induction objects with
  | nil => rfl
  | cons o rest ih =>
    by_cases hreached : o.1.kind = kind ∧ Name.isNamedBy o.1.ns ns
    · rw [List.filter_cons, if_pos (h o.1 hreached)]
      simp only [withPhases, if_pos hreached]
      cases withPhase phase o.2 with
      | error d => simp [h o.1 hreached]
      | ok object => simp [h o.1 hreached, ih]
    · cases hkeep : keep o.1 with
      | true => simp [withPhases, hreached, hkeep, ih]
      | false => simp [withPhases, hreached, hkeep, ih]

/-- Setting phases keeps which keys have objects. -/
theorem has_setPhase (s : Store) (kind : String) (ns phase : Json) (key : Key) :
    (s.setPhase kind ns phase).2.has key = s.has key := by
  have hkeys := keys_withPhases kind ns phase s.objects
  have hany (objects : List (Key × Json)) :
      objects.any (·.1 = key) = (objects.map (·.1)).any (· = key) := by simp [List.any_map]; rfl
  simp only [has, setPhase, hany, hkeys]

end Store

namespace Event

/-- An event keeps which keys have objects, except that the end of a termination empties its
namespace. -/
theorem has_apply (e : Event) (s : Store) (key : Key) :
    (e.apply s).has key = true ↔ s.has key = true ∧
      ∀ ns, e = .finish ns → key.ns ≠ some (.text ns) ∧ key ≠ namespaceKey (.text ns) := by
  cases e with
  | fail action kind failure => simp [apply, Store.fail, Store.has]
  | clearFailures => simp [apply, Store.clearFailures, Store.has]
  | hold value => simp [apply, Store.hold, Store.has]
  | finish ns => simp [apply, Store.finish]; exact fun _ _ ↦ rfl
  | setPhase kind ns phase => simp [apply, Store.has_setPhase]

/-- No event marks a namespace as terminating, and the end of a termination clears its mark. -/
theorem mem_terminating_apply (e : Event) (s : Store) (name : Name) :
    name ∈ (e.apply s).terminating ↔
      name ∈ s.terminating ∧ ∀ ns, e = .finish ns → name ≠ .text ns := by
  cases e with
  | finish ns => simp [apply, Store.finish]
  | _ => simp [apply, Store.fail, Store.clearFailures, Store.hold, Store.setPhase]

/-- An object after an event has the key and the metadata of one before. -/
theorem mem_apply {e : Event} {s : Store} {o : Key × Json} (h : o ∈ (e.apply s).objects) :
    ∃ before ∈ s.objects, before.1 = o.1 ∧ o.2.metadata = before.2.metadata := by
  cases e with
  | finish ns => exact ⟨o, (List.mem_filter.mp h).1, rfl, rfl⟩
  | setPhase kind ns phase => exact Store.mem_withPhases h
  | _ => exact ⟨o, h, rfl, rfl⟩

/-- A failure after an event was there before, or the event injected it. -/
theorem failure?_apply {e : Event} {s : Store} {action : Action} {kind : Kind} {f : Failure}
    (h : (e.apply s).failure? action kind = some f) :
    s.failure? action kind = some f ∨ e = .fail action kind.name f := by
  cases e with
  | fail action' kind' f' =>
    by_cases hsame : (action', kind') = (action, kind.name)
    · obtain ⟨rfl, rfl⟩ := Prod.mk.inj hsame
      simp [apply, Store.fail, Store.failure?] at h
      exact .inr (h ▸ rfl)
    · have hother (entry : (Action × String) × Failure) :
          (entry.1 ≠ (action', kind') ∧ entry.1 = (action, kind.name)) ↔
            entry.1 = (action, kind.name) :=
        ⟨And.right, fun he ↦ ⟨fun he' ↦ hsame (he'.symm.trans he), he⟩⟩
      refine .inl ?_
      simpa only [apply, Store.fail, Store.failure?, List.find?_cons, decide_eq_false hsame,
        List.find?_filter, decide_eq_true_eq, hother] using h
  | clearFailures => simp [apply, Store.clearFailures, Store.failure?] at h
  | _ => exact .inl h

end Event

end TenantBroker.Cluster
