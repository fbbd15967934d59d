import TenantBroker.Proofs.Cluster.Quiet

/-!
# Stores that calls lead to

The stores that calls on the broker's kinds lead to from the empty one, while failures are injected
and taken back at will and no deletion is held back. In such a store no two objects have one key,
and no object of a cluster-wide kind is in a namespace. The objects of a kind in a namespace are
listed by name in ascending order. Taking one of them away leaves the others there.
-/

namespace TenantBroker.Cluster

open Relation (ReflTransGen)

/-! ## Calls on the broker's kinds -/

/-- A manifest that names its object does so by a text. -/
def NamesByText (manifest : Json) : Prop :=
  ∀ name, (manifest.metadata >>= (·.get "name")) = .ok name → name.isTruthy = true →
    ∃ text, name = .str text

/-- A call on one of the broker's kinds that does not name a new object by anything but a text. -/
def Call.BuiltIn : Call → Prop
  | .create kind manifest => kind ∈ Kind.all ∧ NamesByText manifest
  | .get kind _ _ | .list kind _ | .delete kind _ _ => kind ∈ Kind.all

/-- The text that a name is; a number is none. -/
def Name.word : Name → String
  | .text value => value
  | .number _ => ""

namespace Store

variable {s t : Store} {kind : Kind} {key other : Key} {name ns : Json}

/-- The metadata that are stored are those of the manifest. -/
theorem metadata_of_submitted {manifest : Json} {fields metadata : List (String × Json)}
    (hfields : manifest.fields = .ok fields) (h : submittedMetadata fields = .ok metadata) :
    manifest.metadata = .ok (.obj metadata) := by
  have hgiven : manifest.metadata =
      .ok (((Json.field? fields "metadata").getD .null).orElse (.obj [])) := by
    simp only [Json.metadata, Json.get, Json.getD, hfields, Except.map]
  rw [hgiven]
  unfold submittedMetadata at h
  cases hm : Json.field? fields "metadata" with
  | none =>
    rw [hm] at h
    obtain rfl := Except.ok.inj h
    rfl
  | some value =>
    rw [hm] at h
    cases value with
    | obj members =>
      obtain rfl := Except.ok.inj h
      cases members <;> rfl
    | _ => cases h

/-- A draft is named by its manifest, or by the counter and then by a text. -/
theorem text_of_draft {manifest object : Json} {generated after : Nat} (h : NamesByText manifest)
    (hd : draft generated kind manifest = (.ok (name, ns, object), after)) :
    ∃ text, name = .str text := by
  unfold draft at hd
  cases hfields : manifest.fields with
  | error d => simp [hfields] at hd
  | ok fields =>
    cases hmetadata : submittedMetadata fields with
    | error d => simp [hfields, hmetadata] at hd
    | ok metadata =>
      have hget : (manifest.metadata >>= (·.get "name")) =
          .ok ((Json.field? metadata "name").getD .null) := by
        rw [metadata_of_submitted hfields hmetadata]
        rfl
      simp only [hfields, hmetadata, named] at hd
      by_cases hgiven : ((Json.field? metadata "name").getD .null).isTruthy = true
      · rw [if_pos hgiven] at hd
        simp only [Except.map, Prod.mk.injEq, Except.ok.injEq] at hd
        obtain ⟨⟨rfl, -, -⟩, -⟩ := hd
        exact h _ hget hgiven
      · rw [if_neg hgiven] at hd
        cases hstem : Json.field? metadata "generateName" with
        | none => simp [hstem, Except.map] at hd
        | some stem =>
          simp only [hstem, Except.map, Prod.mk.injEq, Except.ok.injEq] at hd
          obtain ⟨⟨rfl, -, -⟩, -⟩ := hd
          exact ⟨_, rfl⟩

/-- A call on the broker's kinds is orderly. -/
theorem orderly_of_builtIn {c : Call} (hc : c.BuiltIn) : c.Orderly := by
  cases c with
  | create kind manifest => exact fun _ _ _ _ _ hd ↦ text_of_draft hc.2 hd
  | get kind name ns => trivial
  | list kind ns => trivial
  | delete kind name ns => exact Kind.eq_namespaces_of_name kind hc

/-! ## What calls keep -/

/-- A store in which every key has one object, which is named by a text and of one of the broker's
kinds, and that removes what it deletes. -/
structure Regular (s : Store) : Prop where
  labelled : s.Labelled
  distinct : s.objects.Pairwise fun a b ↦ a.1 ≠ b.1
  placed : ∀ o ∈ s.objects, ∃ kind ∈ Kind.all, o.1.kind = kind.name ∧
    (kind.namespaced = false → o.1.ns = none)
  removes : s.holding = false

/-- The empty store is regular. -/
theorem regular_empty : empty.Regular where
  labelled := labelled_empty
  distinct := .nil
  placed := List.forall_mem_nil _
  removes := rfl

/-- What is left of the objects after a removal was there before. -/
theorem objects_remove_sublist (s : Store) (kind : Kind) (key : Key) :
    (s.remove kind key).objects.Sublist s.objects := by
  unfold remove
  split
  · split
    · exact List.Sublist.refl _
    · exact List.filter_sublist
  · exact List.filter_sublist

/-- A call on the broker's kinds keeps the store regular. -/
theorem Regular.handle (h : s.Regular) {c : Call} (hc : c.BuiltIn) : (handle c s).2.Regular := by
  have hlabelled := h.labelled.handle (orderly_of_builtIn hc)
  have hremoves := (handle_settings c s).2.1.trans h.removes
  rcases handle_cases c s with ⟨after, log, he⟩ |
    ⟨kind, manifest, name, ns, object, after, log, key, rfl, -, hk, ha, he⟩ |
    ⟨kind, name, ns, log, key, rfl, -, -, he⟩
  · refine ⟨hlabelled, ?_, ?_, hremoves⟩
    · exact he ▸ h.distinct
    · exact he ▸ h.placed
  · have hobjects : (Store.handle (.create kind manifest) s).2.objects =
        s.objects ++ [(key, object)] := congrArg Store.objects he
    obtain ⟨-, hkind, hns⟩ := keyOf_eq_some hk
    refine ⟨hlabelled, ?_, ?_, hremoves⟩
    · rw [hobjects, List.pairwise_append]
      refine ⟨h.distinct, List.pairwise_singleton _ _, fun a hmem b hb hsame ↦ ?_⟩
      rw [List.mem_singleton.mp hb] at hsame
      have hthere := has_of_mem hmem
      rw [hsame, ha.free] at hthere
      cases hthere
    · rw [hobjects]
      intro o ho
      rcases List.mem_append.mp ho with hold | hnew
      · exact h.placed o hold
      · rw [List.mem_singleton.mp hnew]
        refine ⟨kind, hc.1, hkind, fun hwide ↦ ?_⟩
        rwa [hwide, if_neg Bool.false_ne_true] at hns
  · have hobjects : (Store.handle (.delete kind name ns) s).2.objects.Sublist s.objects := by
      rw [he]
      exact objects_remove_sublist (s.noted s.generated log) kind key
    exact ⟨hlabelled, h.distinct.sublist hobjects, fun o ho ↦ h.placed o (hobjects.subset ho),
      hremoves⟩

/-- What can happen to a store whose deletions are not held back: a call on the broker's kinds, or
failures are injected or taken back. -/
inductive Move (s : Store) : Store → Prop
  | call {c : Call} (hc : c.BuiltIn) : Move s (handle c s).2
  | fail (action : Action) (kind : String) (f : Failure) : Move s (s.fail action kind f)
  | clearFailures : Move s s.clearFailures

/-- A store can come to this state. -/
def Reachable (s : Store) : Prop := ReflTransGen Move empty s

/-- What can happen to a store keeps it regular. -/
theorem Regular.move (h : s.Regular) (hmove : Move s t) : t.Regular := by
  cases hmove with
  | call hc => exact h.handle hc
  | fail action kind f => exact ⟨h.labelled, h.distinct, h.placed, h.removes⟩
  | clearFailures => exact ⟨h.labelled, h.distinct, h.placed, h.removes⟩

/-- A store that can be reached is regular. -/
theorem Reachable.regular (h : s.Reachable) : s.Regular := by
  induction h with
  | refl => exact regular_empty
  | tail _ hmove ih => exact ih.move hmove

/-! ## The objects of a kind in a namespace -/

/-- What is listed in a namespace is of the kind and there, or cluster-wide if the kind is. -/
theorem isListed_iff : isListed kind ns key = true ↔ key.kind = kind.name ∧
    Name.ofJson (if kind.namespaced then ns else .null) = .ok key.ns := by
  unfold isListed Name.isNamedBy
  cases Name.ofJson (if kind.namespaced then ns else .null) with
  | ok place =>
    simp only [Bool.and_eq_true, decide_eq_true_eq, Except.ok.injEq]
    exact and_congr_right fun _ ↦ eq_comm
  | error d => simp

/-- In a listing the name tells the keys apart. -/
theorem key_eq_of_isListed (h : isListed kind ns key = true) (h' : isListed kind ns other = true)
    (hname : key.name = other.name) : key = other := by
  obtain ⟨hkind, hns⟩ := isListed_iff.mp h
  obtain ⟨hkind', hns'⟩ := isListed_iff.mp h'
  have hplace : key.ns = other.ns := Except.ok.inj (hns.symm.trans hns')
  cases key
  cases other
  simp_all

/-- What is listed is addressed by its name. -/
theorem keyOf_of_isListed (h : isListed kind ns key = true)
    (hname : Name.ofJson name = .ok (some key.name)) : keyOf kind name ns = .ok (some key) := by
  obtain ⟨title, place, label⟩ := key
  obtain ⟨rfl, hns⟩ := isListed_iff.mp h
  cases hspaced : kind.namespaced with
  | true =>
    rw [hspaced, if_pos rfl] at hns
    simp [keyOf, hspaced, hname, hns]
  | false =>
    rw [hspaced, if_neg Bool.false_ne_true] at hns
    obtain rfl : none = place := Except.ok.inj hns
    simp [keyOf, hspaced, hname]

/-- What a name addresses is listed in its place. -/
theorem isListed_of_keyOf (hk : keyOf kind name ns = .ok (some key)) :
    isListed kind ns key = true := by
  obtain ⟨-, hkind, hns⟩ := keyOf_eq_some hk
  refine isListed_iff.mpr ⟨hkind, ?_⟩
  cases hspaced : kind.namespaced with
  | true => simpa [hspaced] using hns
  | false =>
    rw [hspaced, if_neg Bool.false_ne_true] at hns
    rw [hns, if_neg Bool.false_ne_true]
    rfl

/-- A listing has the objects that are there. -/
theorem mem_listed_iff {o : Key × Json} :
    o ∈ s.listed kind ns ↔ o ∈ s.objects ∧ isListed kind ns o.1 = true := by
  simp only [listed, List.mem_mergeSort, List.mem_filter]

/-- The key is of a kind, in a namespace if the kind has them. -/
def IsOf (kind : Kind) (ns : Json) (key : Key) : Prop :=
  key.kind = kind.name ∧ (kind.namespaced = true → Name.ofJson ns = .ok key.ns)

/-- A regular store lists what there is of a kind in a namespace. -/
theorem Regular.mem_listed_iff_isOf (h : s.Regular) (hkind : kind ∈ Kind.all) {o : Key × Json} :
    o ∈ s.listed kind ns ↔ o ∈ s.objects ∧ IsOf kind ns o.1 := by
  refine mem_listed_iff.trans (and_congr_right fun ho ↦ ?_)
  refine isListed_iff.trans (and_congr_right fun hname ↦ ?_)
  cases hspaced : kind.namespaced with
  | true => simp
  | false =>
    -- A listing of a cluster-wide kind compares with no namespace, and its objects are in none.
    obtain ⟨own, hown, hsame, hwide⟩ := h.placed o ho
    obtain rfl := Kind.eq_of_name kind hkind own hown (hname.symm.trans hsame)
    simp [hwide hspaced, Name.ofJson]

/-- A regular store lists no key twice. -/
theorem Regular.listed_distinct (h : s.Regular) :
    (s.listed kind ns).Pairwise fun a b ↦ a.1 ≠ b.1 :=
  (h.distinct.filter _).perm (List.mergeSort_perm _ _).symm fun h ↦ h.symm

/-- The objects of a regular store are listed by name in ascending order. -/
theorem Regular.listed_ascends (h : s.Regular) (kind : Kind) (ns : Json) :
    ((s.listed kind ns).map fun o ↦ o.1.name.word).Pairwise (· < ·) := by
  have hsorted : ((s.listed kind ns).map fun o ↦ o.1.name.word).Pairwise (· ≤ ·) := by
    -- The order of names is total on texts only, so the sorted list is carried over to texts first.
    have hwords : ((s.listed kind ns).map fun o ↦ o.1.name.word) =
        ((s.objects.filter fun o ↦ isListed kind ns o.1).map fun o ↦ o.1.name.word).mergeSort
          fun a b ↦ a ≤ b := by
      refine List.map_mergeSort fun a ha b hb ↦ ?_
      obtain ⟨name, hname, -⟩ := h.labelled a (List.mem_filter.mp ha).1
      obtain ⟨name', hname', -⟩ := h.labelled b (List.mem_filter.mp hb).1
      simp only [hname, hname', Name.le, Name.word]
    rw [hwords]
    refine (List.pairwise_mergeSort ?_ ?_ _).imp of_decide_eq_true
    · intro a b c hab hbc
      exact decide_eq_true (String.le_trans (of_decide_eq_true hab) (of_decide_eq_true hbc))
    · intro a b
      simpa using String.le_total a b
  have hapart : ((s.listed kind ns).map fun o ↦ o.1.name.word).Pairwise (· ≠ ·) := by
    rw [List.pairwise_map]
    refine h.listed_distinct.imp_of_mem fun {a b} ha hb hne hsame ↦ hne ?_
    obtain ⟨hmem, hlisted⟩ := mem_listed_iff.mp ha
    obtain ⟨hmem', hlisted'⟩ := mem_listed_iff.mp hb
    obtain ⟨name, hname, -⟩ := h.labelled a hmem
    obtain ⟨name', hname', -⟩ := h.labelled b hmem'
    refine key_eq_of_isListed hlisted hlisted' ?_
    rw [hname, hname'] at hsame ⊢
    exact congrArg Name.text hsame
  refine (hsorted.and hapart).imp fun {a b} ⟨hle, hne⟩ ↦ String.not_le.mp fun hge ↦ ?_
  exact hne (String.le_antisymm hle hge)

/-! ## Taking objects away -/

/-- The keys are the same where the objects are. -/
theorem has_congr (h : t.objects = s.objects) (key : Key) : t.has key = s.has key := by
  unfold has
  rw [h]

/-- A delete fails where it was made to. -/
theorem delete_failing {f : Failure} (hf : s.failure? .delete kind = some f) (name ns : Json) :
    s.delete kind name ns = (.error f, s.logged .delete kind name) := by
  have hf' : (s.logged .delete kind name).failure? .delete kind = some f := hf
  simp only [delete, hf']

/-- Whether taking a key of a kind away takes another key along. A namespace takes along what is in
it. -/
def takes (kind : Kind) (key other : Key) : Bool :=
  if kind = Kind.namespaces then other.ns = some key.name ∨ other = namespaceKey key.name
  else other = key

/-- Where deletions are not held back, what is removed is gone at once. -/
theorem remove_eq_without (h : s.holding = false) (kind : Kind) (key : Key) :
    s.remove kind key = s.without (takes kind key) := by
  unfold remove takes
  split
  · rw [h, if_neg Bool.false_ne_true, dropNamespace_eq_without]
  · rw [erase_eq_without]

/-- Of its own kind in its own namespace a key takes none along but itself. -/
theorem takes_iff (h : isListed kind ns key = true) (h' : isListed kind ns other = true) :
    takes kind key other = true ↔ other = key := by
  unfold takes
  split
  · next hnamespaces =>
    subst hnamespaces
    have hwide : other.ns = none := (Except.ok.inj (isListed_iff.mp h').2).symm
    have hself : key = namespaceKey key.name :=
      key_eq_of_isListed h (isListed_iff.mpr ⟨rfl, rfl⟩) rfl
    rw [← hself]
    simp [hwide]
  · simp

/-- A delete fails and leaves the objects as they are, or takes the addressed key away. -/
theorem delete_takes (h : s.holding = false) (kind : Kind) (name ns : Json) :
    (∃ f log, s.delete kind name ns = (.error f, s.noted s.generated log)) ∨
      ∃ key log, keyOf kind name ns = .ok (some key) ∧ s.has key = true ∧
        s.delete kind name ns = (.ok (), (s.without (takes kind key)).noted s.generated log) := by
  rcases delete_cases s kind name ns with ⟨f, log, he, -⟩ | ⟨key, log, hk, hh, he⟩
  · exact .inl ⟨f, log, he⟩
  · refine .inr ⟨key, log, hk, hh, ?_⟩
    rw [he, remove_eq_without (s := s.noted s.generated log) h]
    rfl

/-- The store without all that is listed of a kind in a namespace. -/
def sweep (s : Store) (kind : Kind) (ns : Json) : Store :=
  s.without fun key ↦ (s.listed kind ns).any fun o ↦ takes kind o.1 key

/-- What is listed is swept away. -/
theorem has_sweep_of_listed {o : Key × Json} (ho : o ∈ s.listed kind ns) :
    (s.sweep kind ns).has o.1 = false := by
  have hself := (mem_listed_iff.mp ho).2
  refine Bool.eq_false_iff.mpr fun hthere ↦ ?_
  have hkept := ((has_without s _ o.1).mp hthere).2
  rw [List.any_eq_true.mpr ⟨o, ho, (takes_iff hself hself).mpr rfl⟩] at hkept
  cases hkept

/-- If nothing is listed there is nothing to sweep. -/
theorem sweep_eq_self (h : s.listed kind ns = []) : s.sweep kind ns = s :=
  without_eq_self fun _ _ ↦ by rw [h]; rfl

/-- What is left of a sweep was there before. -/
theorem mem_of_mem_sweep {o : Key × Json} (ho : o ∈ (s.sweep kind ns).objects) : o ∈ s.objects :=
  (List.mem_filter.mp ho).1

/-- What is listed is not among what is left. -/
theorem not_mem_sweep_of_listed {o : Key × Json} (ho : o ∈ s.listed kind ns) :
    o ∉ (s.sweep kind ns).objects := by
  intro hthere
  have habsent := has_sweep_of_listed ho
  rw [has_of_mem hthere] at habsent
  cases habsent

end Store

end TenantBroker.Cluster
