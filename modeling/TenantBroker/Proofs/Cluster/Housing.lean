import TenantBroker.Proofs.Cluster.Event

/-!
# Objects and their namespaces

Two invariants of the store. It is housed if every object in a namespace has the namespace beside
it, and labelled if every object has the name under which it is kept in its metadata, as a text.
Orderly calls and all events keep both, in any order and whatever they come to.
-/

namespace TenantBroker.Cluster

namespace Store

/-- A namespace in which there is an object exists. -/
def Housed (s : Store) : Prop :=
  ∀ key, s.has key = true → ∀ ns, key.ns = some ns → s.has (namespaceKey ns) = true

/-- The name of an object is a text that counts as present, and its metadata give it. -/
def Labelled (s : Store) : Prop :=
  ∀ o ∈ s.objects, ∃ name : String, o.1.name = .text name ∧ name ≠ "" ∧
    (o.2.metadata >>= (·.get "name")) = .ok (.str name)

/-- The empty store is housed. -/
theorem housed_empty : empty.Housed := fun key h ↦ by simp at h

/-- The empty store is labelled. -/
theorem labelled_empty : empty.Labelled := fun o h ↦ by simp [empty] at h

variable {s : Store} {key : Key} {kind : Kind}

/-- Without an object of its own a housed namespace is empty. -/
theorem Housed.vacant (h : s.Housed) {ns : Name} (hns : s.has (namespaceKey ns) = false)
    {o : Key × Json} (ho : o ∈ s.objects) : o.1.ns ≠ some ns := by
  intro hin
  have hpresent := h o.1 (has_of_mem ho) ns hin
  rw [hns] at hpresent
  cases hpresent

/-- An admitted object has its namespace. -/
theorem Housed.insert (h : s.Housed) (ha : s.Admits kind key) (object : Json) :
    (s.insert key object).Housed := by
  intro other hother ns hns
  rw [has_insert] at hother ⊢
  rcases hother with hold | rfl
  · exact .inl (h other hold ns hns)
  · exact .inl (ha.inNamespace ns hns).1

/-- Dropping a namespace drops what is in it. -/
theorem Housed.dropNamespace (h : s.Housed) (name : Name) : (s.dropNamespace name).Housed := by
  intro other hother ns hns
  rw [has_dropNamespace] at hother ⊢
  obtain ⟨hold, hplace, -⟩ := hother
  refine ⟨h other hold ns hns, by simp [namespaceKey], ?_⟩
  intro he
  have hsame : ns = name := congrArg Key.name he
  exact hplace (hsame ▸ hns)

/-- Removing an object keeps the store housed: a namespace takes along what is in it. -/
theorem Housed.remove (h : s.Housed)
    (hkind : kind.name = Kind.namespaces.name → kind = Kind.namespaces)
    (hkey : key.kind = kind.name) : (s.remove kind key).Housed := by
  unfold Store.remove
  by_cases hns : kind = Kind.namespaces
  · rw [if_pos hns]
    cases s.holding with
    | true => exact h
    | false => exact h.dropNamespace key.name
  · rw [if_neg hns]
    intro other hother ns hplace
    rw [has_erase] at hother ⊢
    refine ⟨h other hother.1 ns hplace, fun he ↦ hns (hkind ?_)⟩
    rw [← hkey, ← he]
    rfl

/-- What is left of a labelled store is labelled. -/
theorem Labelled.mono {t : Store} (h : s.Labelled) (ht : ∀ o ∈ t.objects, o ∈ s.objects) :
    t.Labelled := fun o ho ↦ h o (ht o ho)

/-- A draft under a text is labelled. -/
theorem Labelled.insert (h : s.Labelled) {generated after : Nat} {manifest ns object : Json}
    {text : String} (hd : draft generated kind manifest = (.ok (.str text, ns, object), after))
    (hkey : key.name = .text text) : (s.insert key object).Labelled := by
  intro o ho
  rcases List.mem_append.mp ho with hold | hnew
  · exact h o hold
  · obtain rfl : o = (key, object) := by simpa using hnew
    obtain ⟨metadata, hmetadata, hname, htruthy⟩ := name_of_draft hd
    refine ⟨text, hkey, by simpa [Json.isTruthy] using htruthy, ?_⟩
    simp only [hmetadata, bind, Except.bind, hname]

/-- Removing an object keeps the others labelled. -/
theorem Labelled.remove (h : s.Labelled) : (s.remove kind key).Labelled := by
  apply h.mono
  intro o ho
  unfold Store.remove at ho
  split at ho
  · split at ho
    · exact ho
    · exact (List.mem_filter.mp ho).1
  · exact (List.mem_filter.mp ho).1

end Store

/-- The kinds that the broker handles have names of their own. -/
theorem Kind.eq_of_name : ∀ kind ∈ Kind.all, ∀ other ∈ Kind.all,
    kind.name = other.name → kind = other := by
  decide

/-- The kind of namespaces is the only one of its name that the broker handles. -/
theorem Kind.eq_namespaces_of_name (kind : Kind) (h : kind ∈ Kind.all)
    (hname : kind.name = Kind.namespaces.name) : kind = Kind.namespaces :=
  Kind.eq_of_name kind h _ (by decide) hname

/-- A call that names objects by texts, and that takes no kind for that of namespaces. -/
def Call.Orderly : Call → Prop
  | .create kind manifest => ∀ generated name ns object after,
      Store.draft generated kind manifest = (.ok (name, ns, object), after) →
        ∃ text, name = .str text
  | .delete kind _ _ => kind.name = Kind.namespaces.name → kind = Kind.namespaces
  | .get _ _ _ => True
  | .list _ _ => True

namespace Store

variable {s : Store}

/-- An orderly call keeps the store housed. -/
theorem Housed.handle (h : s.Housed) {c : Call} (hc : c.Orderly) : (handle c s).2.Housed := by
  rcases handle_cases c s with ⟨after, log, he⟩ |
    ⟨kind, manifest, name, ns, object, after, log, key, rfl, hd, hk, ha, he⟩ |
    ⟨kind, name, ns, log, key, rfl, hk, hh, he⟩
  · exact he ▸ h
  · rw [he]
    exact Housed.insert (s := s.noted after log) h (ha.noted after log) object
  · rw [he]
    exact Housed.remove (s := s.noted s.generated log) h hc (keyOf_eq_some hk).2.1

/-- An orderly call keeps the store labelled. -/
theorem Labelled.handle (h : s.Labelled) {c : Call} (hc : c.Orderly) :
    (handle c s).2.Labelled := by
  rcases handle_cases c s with ⟨after, log, he⟩ |
    ⟨kind, manifest, name, ns, object, after, log, key, rfl, hd, hk, ha, he⟩ |
    ⟨kind, name, ns, log, key, rfl, hk, hh, he⟩
  · exact he ▸ h
  · rw [he]
    obtain ⟨text, rfl⟩ := hc s.generated name ns object after hd
    have hname := (keyOf_eq_some hk).1
    simp only [Name.ofJson_str, Except.ok.injEq, Option.some.injEq] at hname
    exact Labelled.insert (s := s.noted after log) h hd hname.symm
  · rw [he]
    exact Labelled.remove (s := s.noted s.generated log) h

/-- An event keeps the store housed. -/
theorem Housed.apply (h : s.Housed) (e : Event) : (e.apply s).Housed := by
  intro key hkey ns hns
  rw [Event.has_apply] at hkey ⊢
  refine ⟨h key hkey.1 ns hns, fun name he ↦ ⟨by simp [namespaceKey], fun hsame ↦ ?_⟩⟩
  have hname : ns = .text name := congrArg Key.name hsame
  exact (hkey.2 name he).1 (hname ▸ hns)

/-- An event keeps the store labelled. -/
theorem Labelled.apply (h : s.Labelled) (e : Event) : (e.apply s).Labelled := by
  intro o ho
  obtain ⟨before, hmem, hkey, hmetadata⟩ := Event.mem_apply ho
  obtain ⟨name, hname, hne, hlabel⟩ := h before hmem
  exact ⟨name, hkey ▸ hname, hne, by rw [hmetadata]; exact hlabel⟩

end Store

end TenantBroker.Cluster
