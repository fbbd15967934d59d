import TenantBroker.Cluster.Store
import TenantBroker.Proofs.Success

/-!
# What a call does to the objects

A create adds one object or none, a delete takes away the objects of one key or of one namespace,
or none, and the other calls leave all objects as they are. A create is a draft, which depends on
the manifest and the counter alone, and then an attempt to store the draft.
-/

namespace TenantBroker.Cluster

/-- The key of a namespace carries its name. -/
@[simp] theorem name_namespaceKey (name : Name) : (namespaceKey name).name = name := rfl

namespace Store

/-! ## Keys -/

/-- A key has an object exactly if the store holds one under it. -/
theorem has_iff (s : Store) (key : Key) :
    s.has key = true ↔ ∃ object, (key, object) ∈ s.objects := by
  simp [has, List.any_eq_true]

/-- An object in the store has its key there. -/
theorem has_of_mem {s : Store} {o : Key × Json} (h : o ∈ s.objects) : s.has o.1 = true :=
  (s.has_iff o.1).mpr ⟨o.2, h⟩

/-- No key has an object in the empty store. -/
@[simp] theorem has_empty (key : Key) : empty.has key = false := rfl

/-- Adding an object adds its key alone. -/
@[simp] theorem has_insert (s : Store) (key other : Key) (object : Json) :
    (s.insert key object).has other = true ↔ s.has other = true ∨ other = key := by
  simp [has, insert, @eq_comm _ key other]

/-- Erasing a key removes this key alone. -/
@[simp] theorem has_erase (s : Store) (key other : Key) :
    (s.erase key).has other = true ↔ s.has other = true ∧ other ≠ key := by
  rw [has_iff, has_iff]
  constructor
  · rintro ⟨object, h⟩
    have hm := List.mem_filter.mp h
    exact ⟨⟨object, hm.1⟩, by simpa using hm.2⟩
  · rintro ⟨⟨object, h⟩, hne⟩
    exact ⟨object, List.mem_filter.mpr ⟨h, by simpa using hne⟩⟩

/-- Dropping a namespace removes the keys in it and its own. -/
@[simp] theorem has_dropNamespace (s : Store) (name : Name) (key : Key) :
    (s.dropNamespace name).has key = true ↔
      s.has key = true ∧ key.ns ≠ some name ∧ key ≠ namespaceKey name := by
  rw [has_iff, has_iff]
  constructor
  · rintro ⟨object, h⟩
    have hm := List.mem_filter.mp h
    exact ⟨⟨object, hm.1⟩, by simpa using hm.2⟩
  · rintro ⟨⟨object, h⟩, hne⟩
    exact ⟨object, List.mem_filter.mpr ⟨h, by simpa using hne⟩⟩

/-- Dropping a namespace leaves the terminating namespaces as they are. -/
@[simp] theorem terminating_dropNamespace (s : Store) (name : Name) :
    (s.dropNamespace name).terminating = s.terminating := rfl

/-- Marking a namespace adds it to the terminating ones. -/
@[simp] theorem mem_terminating_terminate (s : Store) (name other : Name) :
    other ∈ (s.terminate name).terminating ↔ other ∈ s.terminating ∨ other = name := by
  unfold terminate
  by_cases h : name ∈ s.terminating
  · have hmem : other = name → other ∈ s.terminating := fun he ↦ he ▸ h
    simpa [h] using hmem
  · simp [h]

/-- Marking a namespace leaves the objects as they are. -/
@[simp] theorem has_terminate (s : Store) (name : Name) (key : Key) :
    (s.terminate name).has key = s.has key := rfl

/-! ## Calls that only leave a trace -/

/-- The store with another counter and another log. -/
def noted (s : Store) (generated : Nat) (log : List LogEntry) : Store := { s with generated, log }

variable (s : Store) (generated : Nat) (log : List LogEntry)

@[simp] theorem objects_noted : (s.noted generated log).objects = s.objects := rfl
@[simp] theorem holding_noted : (s.noted generated log).holding = s.holding := rfl
@[simp] theorem has_noted (key : Key) : (s.noted generated log).has key = s.has key := rfl

/-! ## Drafts -/

/-- The name, the namespace and the object that a manifest asks for, and the counter after that. -/
def draft (generated : Nat) (kind : Kind) (manifest : Json) :
    Except Defect (Json × Json × Json) × Nat :=
  match manifest.fields with
  | .error d => (.error d, generated)
  | .ok fields =>
    match submittedMetadata fields with
    | .error d => (.error d, generated)
    | .ok metadata =>
      let ns := if kind.namespaced then (Json.field? metadata "namespace").getD .null else .null
      let (outcome, after) := named generated metadata
      (outcome.map fun (name, metadata) ↦
        (name, ns, .obj (Json.setField fields "metadata" (.obj metadata))), after)

variable {s generated} {after : Nat} {kind : Kind} {manifest name ns object : Json} {key : Key}

/-- Creating an object is to draft it and then to store the draft. -/
theorem create_eq_draft (s : Store) (kind : Kind) (manifest : Json) :
    s.create kind manifest =
      match draft s.generated kind manifest with
      | (.error d, after) => (.error (.defect d), s.noted after s.log)
      | (.ok (name, ns, object), after) => (s.noted after s.log).put kind name ns object := by
  unfold create draft
  cases hf : manifest.fields with
  | error d => rfl
  | ok fields =>
    cases hm : submittedMetadata fields with
    | error d => simp only [hm, noted]
    | ok metadata =>
      rcases hn : named s.generated metadata with ⟨outcome, after⟩
      cases outcome <;> simp only [hm, hn, Except.map, noted]

private theorem fields_of_draft
    (h : draft generated kind manifest = (.ok (name, ns, object), after)) :
    ∃ fields metadata, object = .obj fields ∧
      Json.field? fields "metadata" = some (.obj metadata) ∧
      Json.field? metadata "name" = some name ∧ name.isTruthy = true := by
  unfold draft at h
  cases hf : manifest.fields with
  | error d => simp [hf] at h
  | ok fields =>
    cases hm : submittedMetadata fields with
    | error d => simp [hf, hm] at h
    | ok metadata =>
      simp only [hf, hm, named] at h
      by_cases hn : ((Json.field? metadata "name").getD .null).isTruthy = true
      · rw [if_pos hn] at h
        cases hv : Json.field? metadata "name" with
        | none => simp [hv, Json.isTruthy] at hn
        | some value =>
          simp only [hv, Option.getD_some] at h hn
          simp only [Except.map, Prod.mk.injEq, Except.ok.injEq] at h
          obtain ⟨⟨rfl, -, rfl⟩, -⟩ := h
          exact ⟨_, metadata, rfl, Json.field?_setField_self _ _ _, hv, hn⟩
      · rw [if_neg hn] at h
        cases hg : Json.field? metadata "generateName" with
        | none => simp [hg, Except.map] at h
        | some stem =>
          simp only [hg, Except.map, Prod.mk.injEq, Except.ok.injEq] at h
          obtain ⟨⟨rfl, -, rfl⟩, -⟩ := h
          refine ⟨_, _, rfl, Json.field?_setField_self _ _ _, Json.field?_setField_self _ _ _, ?_⟩
          simp [Json.isTruthy, generatedSuffix]

/-- The name of a draft is in the metadata of its object, and it counts as present. -/
theorem name_of_draft (h : draft generated kind manifest = (.ok (name, ns, object), after)) :
    ∃ metadata, object.metadata = .ok metadata ∧ metadata.get "name" = .ok name ∧
      name.isTruthy = true := by
  obtain ⟨fields, metadata, rfl, hmetadata, hname, htruthy⟩ := fields_of_draft h
  have hpresent : (Json.obj metadata).isTruthy = true := by
    cases metadata with
    | nil => simp [Json.field?] at hname
    | cons f rest => rfl
  refine ⟨.obj metadata, ?_, ?_, htruthy⟩
  · simp [Json.metadata, Json.get, Json.getD, Json.fields, Except.map, hmetadata, Json.orElse,
      hpresent]
  · simp [Json.get, Json.getD, Json.fields, Except.map, hname]

/-! ## Storing a draft -/

/-- What has to hold for an object of a kind to be stored under a key. -/
structure Admits (s : Store) (kind : Kind) (key : Key) : Prop where
  unhindered : s.failure? .create kind = none
  free : s.has key = false
  inNamespace : ∀ ns, key.ns = some ns → s.has (namespaceKey ns) = true ∧ ns ∉ s.terminating

/-- The counter and the log do not decide what is admitted. -/
theorem Admits.noted {s : Store} (h : s.Admits kind key) (generated : Nat) (log : List LogEntry) :
    (s.noted generated log).Admits kind key := ⟨h.unhindered, h.free, h.inNamespace⟩

/-- What a key consists of. -/
theorem keyOf_eq_some (h : keyOf kind name ns = .ok (some key)) :
    Name.ofJson name = .ok (some key.name) ∧ key.kind = kind.name ∧
      if kind.namespaced then Name.ofJson ns = .ok key.ns else key.ns = none := by
  cases hk : kind.namespaced with
  | false =>
    simp only [keyOf, hk, Bool.false_eq_true, if_false, bind_eq_ok_iff, pure_eq_ok_iff] at h
    obtain ⟨found, hname, place, rfl, hkey⟩ := h
    obtain ⟨value, rfl, rfl⟩ := Option.map_eq_some_iff.mp hkey
    exact ⟨hname, rfl, by simp⟩
  | true =>
    simp only [keyOf, hk, if_true, bind_eq_ok_iff, pure_eq_ok_iff] at h
    obtain ⟨found, hname, place, hplace, hkey⟩ := h
    obtain ⟨value, rfl, rfl⟩ := Option.map_eq_some_iff.mp hkey
    exact ⟨hname, rfl, by simpa using hplace⟩

private theorem isTerminating_iff {place : Name} (h : Name.ofJson ns = .ok (some place)) :
    s.isTerminating ns = true ↔ place ∈ s.terminating := by
  simp [isTerminating, Name.isNamedBy, h]

/-- Whether a namespace exists is whether its key has an object, unless its name is empty. -/
theorem hasNamespace_str (s : Store) {text : String} (hne : text ≠ "") :
    s.hasNamespace (.str text) = .ok (s.has (namespaceKey (.text text))) := by
  have htruthy : (Json.str text).isTruthy = true := by simpa [Json.isTruthy] using hne
  simp only [hasNamespace, if_pos htruthy, Name.ofJson_str, Except.map, Option.any_some]

/-- Whether a namespace is terminating is whether its name is marked. -/
theorem isTerminating_str (s : Store) (text : String) :
    s.isTerminating (.str text) = decide (.text text ∈ s.terminating) := by
  rw [Bool.eq_iff_iff, isTerminating_iff (Name.ofJson_str text), decide_eq_true_iff]

private theorem checkNamespace_ok (hk : kind.namespaced = true)
    (h : s.checkNamespace kind ns = .ok ()) :
    ∃ place, Name.ofJson ns = .ok (some place) ∧ s.has (namespaceKey place) = true ∧
      place ∉ s.terminating := by
  simp [checkNamespace, hk, hasNamespace] at h
  obtain ⟨hpresent, hlasting⟩ := h
  split at hpresent
  · simp only [map_eq_ok_iff, Option.any_eq_true] at hpresent
    obtain ⟨_, hplace, place, rfl, hhas⟩ := hpresent
    refine ⟨place, hplace, hhas, fun hmem ↦ ?_⟩
    simp [(isTerminating_iff hplace).mpr hmem] at hlasting
  · simp at hpresent

/-- A free key is the one that is addressed, and the store admits it. -/
theorem freeKey_ok (h : s.freeKey kind name ns = .ok key) :
    keyOf kind name ns = .ok (some key) ∧ s.Admits kind key := by
  cases hf : s.failure? .create kind with
  | some f => simp [freeKey, hf] at h
  | none =>
    simp [freeKey, hf] at h
    obtain ⟨⟨⟨⟩, hcheck⟩, found, hkey, hfree⟩ := h
    cases found with
    | none => simp at hfree
    | some other =>
      cases hhas : s.has other with
      | true => simp [hhas] at hfree
      | false =>
        simp [hhas] at hfree
        subst hfree
        refine ⟨hkey, hf, hhas, ?_⟩
        intro place hplace
        have hns := (keyOf_eq_some hkey).2.2
        cases hk : kind.namespaced with
        | false => simp [hk, hplace] at hns
        | true =>
          obtain ⟨other, hother, hpresent, hlasting⟩ := checkNamespace_ok hk hcheck
          rw [hk, if_pos rfl, hother, hplace, Except.ok.injEq, Option.some.injEq] at hns
          exact hns ▸ ⟨hpresent, hlasting⟩

/-- What decides about a create before its key does: the failure that it has been given, and its
namespace. -/
def admission (s : Store) (kind : Kind) (ns : Json) : Except Failure Unit :=
  match s.failure? .create kind with
  | some f => .error f
  | none => s.checkNamespace kind ns

/-- An admitted create asks for a key, which has to be free. -/
theorem freeKey_eq (hk : keyOf kind name ns = .ok (some key)) :
    s.freeKey kind name ns =
      match s.admission kind ns with
      | .error f => .error f
      | .ok () => if s.has key = true
          then .error (alreadyExistsFailure (resourceText kind.plural name)) else .ok key := by
  unfold freeKey admission
  cases hf : s.failure? .create kind with
  | some f => rfl
  | none =>
    rw [hk]
    cases hc : s.checkNamespace kind ns with
    | error f => simp [bind, Except.bind]
    | ok u =>
      cases hh : s.has key with
      | true => simp [hh, bind, Except.bind, throw, throwThe, MonadExceptOf.throw]
      | false => simp [hh, bind, Except.bind, pure, Except.pure]

/-- What a create with a known draft comes to. -/
theorem create_of_key (hd : draft s.generated kind manifest = (.ok (name, ns, object), after))
    (hk : keyOf kind name ns = .ok (some key)) :
    s.create kind manifest =
      match s.admission kind ns with
      | .error f => (.error f, (s.noted after s.log).logged .create kind name)
      | .ok () =>
        if s.has key = true then
          (.error (alreadyExistsFailure (resourceText kind.plural name)),
            (s.noted after s.log).logged .create kind name)
        else (.ok object, ((s.noted after s.log).logged .create kind name).insert key object) := by
  have hfree := freeKey_eq (s := (s.noted after s.log).logged .create kind name) hk
  have hadmission : ((s.noted after s.log).logged .create kind name).admission kind ns =
      s.admission kind ns := rfl
  have hhas : ((s.noted after s.log).logged .create kind name).has key = s.has key := rfl
  rw [hadmission, hhas] at hfree
  rw [create_eq_draft, hd]
  simp only [put, hfree]
  cases s.admission kind ns with
  | error f => rfl
  | ok u =>
    cases s.has key with
    | true => rfl
    | false => rfl

/-! ## Every call -/

/-- A create fails and leaves a trace, or it stores its draft under an admitted key. -/
theorem create_cases (s : Store) (kind : Kind) (manifest : Json) :
    (∃ f after log, s.create kind manifest = (.error f, s.noted after log)) ∨
      ∃ name ns object after log key,
        draft s.generated kind manifest = (.ok (name, ns, object), after) ∧
        keyOf kind name ns = .ok (some key) ∧ s.Admits kind key ∧
        s.create kind manifest = (.ok object, (s.noted after log).insert key object) := by
  rw [create_eq_draft]
  rcases hd : draft s.generated kind manifest with ⟨outcome, after⟩
  cases outcome with
  | error d => exact .inl ⟨.defect d, after, s.log, rfl⟩
  | ok parts =>
    obtain ⟨name, ns, object⟩ := parts
    simp only [put]
    cases hk : ((s.noted after s.log).logged .create kind name).freeKey kind name ns with
    | error f => exact .inl ⟨f, after, _, rfl⟩
    | ok key =>
      obtain ⟨hkey, hadmits⟩ := freeKey_ok hk
      have hadmitted : s.Admits kind key := ⟨hadmits.1, hadmits.2, hadmits.3⟩
      exact .inr ⟨name, ns, object, after, _, key, rfl, hkey, hadmitted, rfl⟩

/-- Creating what has a known draft fails and leaves a trace, or it stores this draft. -/
theorem create_of_draft {s : Store}
    (hd : draft s.generated kind manifest = (.ok (name, ns, object), after))
    (hk : keyOf kind name ns = .ok (some key)) :
    (∃ f log, s.create kind manifest = (.error f, s.noted after log)) ∨
      ∃ log, s.Admits kind key ∧
        s.create kind manifest = (.ok object, (s.noted after log).insert key object) := by
  rcases create_cases s kind manifest with ⟨f, after', log, h⟩ |
    ⟨name', ns', object', after', log, key', hd', hk', ha, h⟩
  · rw [create_eq_draft, hd] at h ⊢
    obtain ⟨hf, hs⟩ := Prod.mk.inj h
    refine .inl ⟨f, ((s.noted after s.log).logged .create kind name).log, Prod.ext hf ?_⟩
    simp only [put] at hf ⊢
    cases hfree : ((s.noted after s.log).logged .create kind name).freeKey kind name ns with
    | error g => rfl
    | ok key => simp [hfree] at hf
  · rw [hd] at hd'
    simp only [Prod.mk.injEq, Except.ok.injEq] at hd'
    obtain ⟨⟨rfl, rfl, rfl⟩, rfl⟩ := hd'
    rw [hk, Except.ok.injEq, Option.some.injEq] at hk'
    obtain rfl := hk'
    exact .inr ⟨log, ha, h⟩

/-- A key without an object is not found. -/
theorem find?_eq_none_iff : s.find? key = none ↔ s.has key = false := by
  simp [find?, has]

/-- Looking up the name of a key without an object finds nothing. -/
theorem lookup_absent (hk : keyOf kind name ns = .ok (some key)) (h : s.has key = false) :
    s.lookup kind name ns = .error (notFoundFailure (resourceText kind.plural name)) := by
  simp [lookup, hk, find?_eq_none_iff.mpr h, bind, Except.bind, throw, throwThe,
    MonadExceptOf.throw]

/-- Looking up the name of a key with an object finds one under this key. -/
theorem lookup_present (hk : keyOf kind name ns = .ok (some key)) (h : s.has key = true) :
    ∃ object, s.lookup kind name ns = .ok (key, object) := by
  cases ho : s.find? key with
  | none => simp [find?_eq_none_iff.mp ho] at h
  | some object =>
    refine ⟨object, ?_⟩
    simp [lookup, hk, ho, bind, Except.bind, pure, Except.pure]

/-- Looking up a name finds what is under the key that it addresses. -/
theorem lookup_ok {found : Key × Json} (h : s.lookup kind name ns = .ok found) :
    keyOf kind name ns = .ok (some found.1) ∧ found ∈ s.objects := by
  simp [lookup] at h
  obtain ⟨key?, hkey, hfound⟩ := h
  cases key? with
  | none => simp at hfound
  | some key =>
    simp only [Option.bind_some] at hfound
    cases ho : s.find? key with
    | none => simp [ho] at hfound
    | some object =>
      simp [ho] at hfound
      subst hfound
      refine ⟨hkey, ?_⟩
      simp only [find?, Option.map_eq_some_iff] at ho
      obtain ⟨o, ho, rfl⟩ := ho
      have hk : o.1 = key := by simpa using List.find?_some ho
      exact hk ▸ List.mem_of_find?_eq_some ho

/-- A delete fails and leaves a trace, or it removes the object under the addressed key. It fails
only as it was made to, or for want of an object. -/
theorem delete_cases (s : Store) (kind : Kind) (name ns : Json) :
    (∃ f log, s.delete kind name ns = (.error f, s.noted s.generated log) ∧
      (s.failure? .delete kind = some f ∨
        ∀ key, keyOf kind name ns = .ok (some key) → s.has key = false)) ∨
      ∃ key log, keyOf kind name ns = .ok (some key) ∧ s.has key = true ∧
        s.delete kind name ns = (.ok (), (s.noted s.generated log).remove kind key) := by
  let t := s.logged .delete kind name
  cases hf : s.failure? .delete kind with
  | some f =>
    have hf' : t.failure? .delete kind = some f := hf
    exact .inl ⟨f, t.log, by simp only [delete, t, hf']; rfl, .inl rfl⟩
  | none =>
    have hf' : t.failure? .delete kind = none := hf
    cases hl : t.lookup kind name ns with
    | error f =>
      refine .inl ⟨f, t.log, by simp only [delete, t, hf', hl]; rfl, .inr fun key hkey ↦ ?_⟩
      cases hh : s.has key with
      | false => rfl
      | true =>
        obtain ⟨object, ho⟩ := lookup_present (s := t) hkey hh
        simp [ho] at hl
    | ok found =>
      obtain ⟨hkey, hmem⟩ := lookup_ok hl
      exact .inr ⟨found.1, t.log, hkey, has_of_mem hmem, by simp only [delete, t, hf', hl]; rfl⟩

/-- What a delete with a known key comes to. -/
theorem delete_of_key (hk : keyOf kind name ns = .ok (some key)) :
    s.delete kind name ns =
      match s.failure? .delete kind with
      | some f => (.error f, s.logged .delete kind name)
      | none => if s.has key = true
          then (.ok (), (s.logged .delete kind name).remove kind key)
          else (.error (notFoundFailure (resourceText kind.plural name)),
            s.logged .delete kind name) := by
  let t := s.logged .delete kind name
  cases hf : s.failure? .delete kind with
  | some f =>
    have hf' : t.failure? .delete kind = some f := hf
    simp only [delete, t, hf']
  | none =>
    have hf' : t.failure? .delete kind = none := hf
    cases hh : s.has key with
    | false =>
      have hl := lookup_absent (s := t) hk hh
      simp only [delete, t, hf', hl]
      rfl
    | true =>
      obtain ⟨object, hl⟩ := lookup_present (s := t) hk hh
      simp only [delete, t, hf', hl]
      rfl

/-- What asking for an object with a known key comes to. -/
theorem get_of_key (hk : keyOf kind name ns = .ok (some key)) :
    match s.failure? .get kind with
    | some f => (s.get kind name ns).1 = .error f
    | none => if s.has key = true then ∃ object, (s.get kind name ns).1 = .ok object
        else (s.get kind name ns).1 = .error (notFoundFailure (resourceText kind.plural name)) := by
  let t := s.logged .get kind name
  cases hf : s.failure? .get kind with
  | some f =>
    have hf' : t.failure? .get kind = some f := hf
    simp only [get, t, hf']
  | none =>
    have hf' : t.failure? .get kind = none := hf
    cases hh : s.has key with
    | false =>
      have hl := lookup_absent (s := t) hk hh
      simp only [get, t, hf', hl]
      rfl
    | true =>
      obtain ⟨object, hl⟩ := lookup_present (s := t) hk hh
      refine ⟨object, ?_⟩
      simp only [get, t, hf', hl]
      rfl

/-- Asking for an object leaves a trace only. -/
theorem get_snd (s : Store) (kind : Kind) (name ns : Json) :
    (s.get kind name ns).2 = s.logged .get kind name := by
  simp only [get]
  split <;> rfl

/-- Asking for an object fails only as it was made to, or for want of an object. -/
theorem get_error {s : Store} {f : Failure} (h : (s.get kind name ns).1 = .error f) :
    s.failure? .get kind = some f ∨
      ∀ key, keyOf kind name ns = .ok (some key) → s.has key = false := by
  let t := s.logged .get kind name
  cases hf : s.failure? .get kind with
  | some g =>
    have hf' : t.failure? .get kind = some g := hf
    simp only [get, t, hf'] at h
    exact .inl (congrArg some (Except.error.inj h))
  | none =>
    have hf' : t.failure? .get kind = none := hf
    right
    intro key hkey
    cases hh : s.has key with
    | false => rfl
    | true =>
      obtain ⟨object, ho⟩ := lookup_present (s := t) hkey hh
      simp [get, t, hf', ho, Except.map] at h

/-- Listing leaves a trace only. -/
theorem list_snd (s : Store) (kind : Kind) (ns : Json) :
    (s.list kind ns).2 = s.logged .list kind ns := by
  simp only [list]
  split
  · rfl
  · split <;> rfl

/-- What a call can do: nothing but leave a trace, add the object of a draft, or remove an object
that is there. -/
theorem handle_cases (c : Call) (s : Store) :
    (∃ after log, (handle c s).2 = s.noted after log) ∨
      (∃ kind manifest name ns object after log key, c = .create kind manifest ∧
        draft s.generated kind manifest = (.ok (name, ns, object), after) ∧
        keyOf kind name ns = .ok (some key) ∧ s.Admits kind key ∧
        (handle c s).2 = (s.noted after log).insert key object) ∨
      ∃ kind name ns log key, c = .delete kind name ns ∧ keyOf kind name ns = .ok (some key) ∧
        s.has key = true ∧ (handle c s).2 = (s.noted s.generated log).remove kind key := by
  cases c with
  | create kind manifest =>
    rcases create_cases s kind manifest with ⟨f, after, log, h⟩ |
      ⟨name, ns, object, after, log, key, hd, hk, ha, h⟩
    · exact .inl ⟨after, log, congrArg Prod.snd h⟩
    · exact .inr (.inl ⟨kind, manifest, name, ns, object, after, log, key, rfl, hd, hk, ha,
        congrArg Prod.snd h⟩)
  | get kind name ns => exact .inl ⟨s.generated, _, get_snd s kind name ns⟩
  | list kind ns => exact .inl ⟨s.generated, _, list_snd s kind ns⟩
  | delete kind name ns =>
    rcases delete_cases s kind name ns with ⟨f, log, h, -⟩ | ⟨key, log, hk, hh, h⟩
    · exact .inl ⟨s.generated, log, congrArg Prod.snd h⟩
    · exact .inr (.inr ⟨kind, name, ns, log, key, rfl, hk, hh, congrArg Prod.snd h⟩)

/-- No call injects a failure or changes whether deletions are held back, and where they are not no
call leaves a namespace terminating. -/
theorem handle_settings (c : Call) (s : Store) :
    (handle c s).2.failures = s.failures ∧ (handle c s).2.holding = s.holding ∧
      (s.holding = false → (handle c s).2.terminating = s.terminating) := by
  rcases handle_cases c s with ⟨after, log, he⟩ |
    ⟨kind, manifest, name, ns, object, after, log, key, -, -, -, -, he⟩ |
    ⟨kind, name, ns, log, key, -, -, -, he⟩
  · rw [he]
    exact ⟨rfl, rfl, fun _ ↦ rfl⟩
  · rw [he]
    exact ⟨rfl, rfl, fun _ ↦ rfl⟩
  · rw [he, remove]
    split
    · cases hh : s.holding with
      | true =>
        rw [holding_noted, hh, if_pos rfl]
        exact ⟨rfl, hh, fun h ↦ nomatch h⟩
      | false =>
        rw [holding_noted, hh, if_neg Bool.false_ne_true]
        exact ⟨rfl, hh, fun _ ↦ rfl⟩
    · exact ⟨rfl, rfl, fun _ ↦ rfl⟩

end Store

end TenantBroker.Cluster
