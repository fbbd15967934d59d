import TenantBroker.Proofs.Cluster.Conduct
import TenantBroker.Proofs.Cluster.Housing

/-!
# Calls that nothing hinders

Without injected failures a delete takes away what it names, whether or not that is there, and
listing finds the objects of a kind in a namespace under their own names. What is left of a store
is the store without some keys.
-/

namespace TenantBroker.Cluster.Store

/-! ## Stores without some keys -/

/-- The store without the objects under some keys. -/
def without (s : Store) (gone : Key → Bool) : Store :=
  { s with objects := s.objects.filter fun o ↦ !gone o.1 }

variable {s : Store} {gone : Key → Bool} {key : Key} {kind : Kind} {name ns : Json}

@[simp] theorem objects_without (s : Store) (gone : Key → Bool) :
    (s.without gone).objects = s.objects.filter fun o ↦ !gone o.1 := rfl
@[simp] theorem holding_without (s : Store) (gone : Key → Bool) :
    (s.without gone).holding = s.holding := rfl

/-- The keys that are left are those that were there and are not taken away. -/
@[simp] theorem has_without (s : Store) (gone : Key → Bool) (key : Key) :
    (s.without gone).has key = true ↔ s.has key = true ∧ gone key = false := by
  rw [has_iff, has_iff]
  constructor
  · rintro ⟨object, h⟩
    have hm := List.mem_filter.mp h
    exact ⟨⟨object, hm.1⟩, by simpa using hm.2⟩
  · rintro ⟨⟨object, h⟩, hkeep⟩
    exact ⟨object, List.mem_filter.mpr ⟨h, by simpa using hkeep⟩⟩

/-- A store stays housed if no namespace is taken away. -/
theorem Housed.without (h : s.Housed) (hkeep : ∀ name, gone (namespaceKey name) = false) :
    (s.without gone).Housed := by
  intro key hkey ns hns
  rw [has_without] at hkey ⊢
  exact ⟨h key hkey.1 ns hns, hkeep ns⟩

/-- Taking away some keys and then others takes away both. -/
theorem without_without (s : Store) (gone others : Key → Bool) :
    (s.without gone).without others = s.without fun key ↦ gone key || others key := by
  simp only [without, List.filter_filter, Bool.not_or, Bool.and_comm]

/-- Taking away keys without objects changes nothing. -/
theorem without_eq_self (h : ∀ o ∈ s.objects, gone o.1 = false) : s.without gone = s := by
  have hall : s.objects.filter (fun o ↦ !gone o.1) = s.objects :=
    List.filter_eq_self.mpr fun o ho ↦ by simp [h o ho]
  simp only [without, hall]

/-- Erasing takes one key away. -/
theorem erase_eq_without (s : Store) (key : Key) : s.erase key = s.without (· = key) := by
  simp [erase, without]

/-- Dropping a namespace takes away its key and those in it. -/
theorem dropNamespace_eq_without (s : Store) (name : Name) :
    s.dropNamespace name = s.without fun key ↦ key.ns = some name ∨ key = namespaceKey name := by
  simp [dropNamespace, without]

/-! ## Creating -/

/-- Where no failure is injected no call has been given one. -/
theorem failure?_eq_none (h : s.failures = []) (action : Action) (kind : Kind) :
    s.failure? action kind = none := by
  simp [failure?, h]

/-- A place in which objects of a kind can be created: cluster-wide objects have none, and others
need a namespace that is there and not terminating. -/
def Receives (s : Store) (kind : Kind) (ns : Json) : Prop :=
  kind.namespaced = true → ∃ text, ns = .str text ∧ text ≠ "" ∧
    s.has (namespaceKey (.text text)) = true ∧ .text text ∉ s.terminating

private theorem checkNamespace_of_receives (h : s.Receives kind ns) :
    s.checkNamespace kind ns = .ok () := by
  unfold checkNamespace
  cases hk : kind.namespaced with
  | false => rfl
  | true =>
    obtain ⟨text, rfl, hne, hpresent, hlasting⟩ := h hk
    have hhas : s.hasNamespace (.str text) = .ok true := by
      rw [hasNamespace_str s hne, hpresent]
    have hmark : s.isTerminating (.str text) = false := by
      rw [isTerminating_str]
      exact decide_eq_false hlasting
    simp [hhas, hmark, bind, Except.bind, pure, Except.pure]

/-- Without an injected failure a create stores its draft, unless there is an object of this name
already. -/
theorem create_unhindered {manifest object : Json} {after : Nat}
    (hf : s.failure? .create kind = none)
    (hd : draft s.generated kind manifest = (.ok (name, ns, object), after))
    (hk : keyOf kind name ns = .ok (some key)) (hplace : s.Receives kind ns) :
    s.create kind manifest = if s.has key = true
      then (.error (alreadyExistsFailure (resourceText kind.plural name)),
        (s.noted after s.log).logged .create kind name)
      else (.ok object, ((s.noted after s.log).logged .create kind name).insert key object) := by
  have hadmitted : s.admission kind ns = .ok () := by
    rw [admission, hf]
    exact checkNamespace_of_receives hplace
  rw [create_of_key hd hk, hadmitted]

/-! ## Deleting -/

/-- Without an injected failure a delete removes the object that it names, and does not find one
that is not there. -/
theorem delete_unhindered (hf : s.failure? .delete kind = none)
    (hk : keyOf kind name ns = .ok (some key)) :
    s.delete kind name ns = if s.has key = true
      then (.ok (), (s.logged .delete kind name).remove kind key)
      else (.error (notFoundFailure (resourceText kind.plural name)),
        s.logged .delete kind name) := by
  rw [delete_of_key hk, hf]

/-- A delete that went through or found nothing. -/
def Gone (reply : Except Failure Unit) : Prop :=
  reply = .ok () ∨ ∃ f, reply = .error f ∧ f.isNotFound = true

/-- Without an injected failure a delete of a namespace removes it if it is there. -/
theorem delete_namespace (hf : s.failure? .delete Kind.namespaces = none) (text : String) :
    ∃ log, Gone (s.delete Kind.namespaces (.str text) .null).1 ∧
      (s.delete Kind.namespaces (.str text) .null).2 =
        if s.has (namespaceKey (.text text)) = true
        then (s.noted s.generated log).remove Kind.namespaces (namespaceKey (.text text))
        else s.noted s.generated log := by
  refine ⟨(s.logged .delete Kind.namespaces (.str text)).log, ?_⟩
  have hk : keyOf Kind.namespaces (.str text) .null = .ok (some (namespaceKey (.text text))) := rfl
  rw [delete_unhindered hf hk]
  cases s.has (namespaceKey (.text text)) with
  | true => exact ⟨.inl rfl, rfl⟩
  | false => exact ⟨.inr ⟨_, rfl, rfl⟩, rfl⟩

/-- Without an injected failure a delete of anything else takes one key away, whether or not it has
an object. -/
theorem delete_plain (hf : s.failure? .delete kind = none) (hplain : kind ≠ Kind.namespaces)
    (hk : keyOf kind name ns = .ok (some key)) :
    ∃ log, Gone (s.delete kind name ns).1 ∧
      (s.delete kind name ns).2 = (s.without (· = key)).noted s.generated log := by
  refine ⟨(s.logged .delete kind name).log, ?_⟩
  rw [delete_unhindered hf hk]
  cases hh : s.has key with
  | true =>
    refine ⟨.inl rfl, ?_⟩
    simp only [if_pos, remove, if_neg hplain, erase_eq_without]
    rfl
  | false =>
    refine ⟨.inr ⟨_, rfl, rfl⟩, ?_⟩
    have hnone : s.without (· = key) = s := by
      refine without_eq_self fun o ho ↦ decide_eq_false ?_
      rintro rfl
      rw [has_of_mem ho] at hh
      cases hh
    rw [hnone]
    rfl

/-! ## Looking -/

/-- Without an injected failure an object is found exactly if it is there. -/
theorem get_unhindered (hf : s.failure? .get kind = none)
    (hk : keyOf kind name ns = .ok (some key)) :
    if s.has key = true then ∃ object, s.get kind name ns = (.ok object, s.logged .get kind name)
    else s.get kind name ns =
      (.error (notFoundFailure (resourceText kind.plural name)), s.logged .get kind name) := by
  have hget := get_of_key (s := s) hk
  have hafter := get_snd s kind name ns
  rw [hf] at hget
  cases hh : s.has key with
  | false =>
    rw [hh, if_neg Bool.false_ne_true] at hget
    exact Prod.ext hget hafter
  | true =>
    rw [hh] at hget
    obtain ⟨object, hobject⟩ := hget
    exact ⟨object, Prod.ext hobject hafter⟩

/-- All names of a labelled store are texts, so they have an order. -/
theorem Labelled.sortable (h : s.Labelled) : Name.sortable (s.objects.map (·.1.name)) = true := by
  simp only [Name.sortable, List.all_map, List.all_eq_true, Function.comp]
  intro a ha b hb
  obtain ⟨_, hname, -⟩ := h a ha
  obtain ⟨_, hother, -⟩ := h b hb
  simp [hname, hother, Name.comparable]

/-- A labelled store lists its objects, unless listing has been given a failure. -/
theorem list_of_labelled (h : s.Labelled) (kind : Kind) (ns : Json) :
    (s.list kind ns).1 =
      match s.failure? .list kind with
      | some f => .error f
      | none => .ok ((s.listed kind ns).map (·.2)) := by
  have hsortable : Name.sortable ((s.logged .list kind ns).objects.map (·.1.name)) = true :=
    h.sortable
  cases hf : s.failure? .list kind with
  | some f =>
    have hf' : (s.logged .list kind ns).failure? .list kind = some f := hf
    simp only [list, hf']
  | none =>
    have hf' : (s.logged .list kind ns).failure? .list kind = none := hf
    simp only [list, hf', if_pos hsortable]
    rfl

/-- Without an injected failure a labelled store lists its objects. -/
theorem list_unhindered (h : s.Labelled) (hf : s.failure? .list kind = none) (ns : Json) :
    s.list kind ns = (.ok ((s.listed kind ns).map (·.2)), s.logged .list kind ns) := by
  have hlist := list_of_labelled h kind ns
  rw [hf] at hlist
  exact Prod.ext hlist (list_snd s kind ns)

/-- What is listed in a namespace is what is kept under its name and the kind. -/
theorem mem_listed {text : String} (hkind : kind.namespaced = true) {o : Key × Json} :
    o ∈ s.listed kind (.str text) ↔
      o ∈ s.objects ∧ o.1.kind = kind.name ∧ o.1.ns = some (.text text) := by
  simp [listed, isListed, Name.isNamedBy, hkind]

/-! ## Stores that nothing hinders -/

/-- A housed and labelled store without injected failures. Deletions are held back for good or not
at all, and in the latter case no namespace is terminating. -/
structure Steady (holding : Bool) (s : Store) : Prop where
  housed : s.Housed
  labelled : s.Labelled
  unhindered : s.failures = []
  holds : s.holding = holding
  lasting : holding = false → s.terminating = []

variable {holding : Bool}

/-- The empty store is steady. -/
theorem steady_empty (holding : Bool) : (empty.hold holding).Steady holding where
  housed := housed_empty
  labelled := labelled_empty
  unhindered := rfl
  holds := rfl
  lasting _ := rfl

/-- An orderly call keeps the store steady. -/
theorem Steady.handle (h : s.Steady holding) {c : Call} (hc : c.Orderly) :
    (handle c s).2.Steady holding := by
  obtain ⟨hfailures, hholding, hterminating⟩ := handle_settings c s
  exact {
    housed := h.housed.handle hc
    labelled := h.labelled.handle hc
    unhindered := hfailures.trans h.unhindered
    holds := hholding.trans h.holds
    lasting := fun hnot ↦ (hterminating (h.holds.trans hnot)).trans (h.lasting hnot) }

/-- A program of orderly calls keeps the store steady. -/
theorem Steady.run (h : s.Steady holding) {α : Type} {p : Program α} (hp : p.Only Call.Orderly) :
    (p.run Store.handle s).2.Steady holding :=
  Program.run_of_only (fun _ hc _ hs ↦ hs.handle hc) hp h

/-- Setting phases keeps the store steady. -/
theorem Steady.setPhase (h : s.Steady holding) (kind ns : String) (phase : Json) :
    (s.setPhase kind (.str ns) phase).2.Steady holding where
  housed := h.housed.apply (.setPhase kind ns phase)
  labelled := h.labelled.apply (.setPhase kind ns phase)
  unhindered := h.unhindered
  holds := h.holds
  lasting := h.lasting

/-- The end of a termination keeps the store steady. -/
theorem Steady.finish (h : s.Steady holding) (ns : String) :
    (s.finish (.str ns)).2.Steady holding where
  housed := h.housed.apply (.finish ns)
  labelled := h.labelled.apply (.finish ns)
  unhindered := h.unhindered
  holds := h.holds
  lasting hnot := List.filter_eq_nil_iff.mpr fun name hname ↦ by
    rw [h.lasting hnot] at hname
    cases hname

end TenantBroker.Cluster.Store
