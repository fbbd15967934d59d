import TenantBroker.Proofs.Cluster.Mirror
import TenantBroker.Proofs.Tenant.Stage

/-!
# One tenant in two stores

A tenant looks the same in two stores if it is composed of the same parts in both, whatever numbers
were filled in, and if the settings of the stores are the same. Then the calls of its pipelines come
to the same in both, and the tenant looks the same after them. Calls of other tenants on one of the
stores make no difference.
-/

namespace TenantBroker.Tenant

open Cluster (Key Kind Name Store keyOf namespaceKey)
open Cluster.Program
open Pipeline (createdName)

variable {ns username : String} {config : Config} {part other : Kind × Json}
  {parts : List (Kind × Json)} {s t : Store} {kind : Kind} {key : Key}

/-! ## Keys that are known beforehand -/

/-- A part whose key does not depend on a number. -/
def Fixed (part : Kind × Json) : Prop := (outline part).whole = true ∨ part.1.namespaced = false

instance (part : Kind × Json) : Decidable (Fixed part) := inferInstanceAs (Decidable (_ ∨ _))

/-- The key of what is made of a part. -/
theorem Made.exists_key {o : Key × Json} (h : Made ns part o) :
    ∃ name, o.1 = partKey ns part.1 name := by
  cases h with
  | asGiven name => exact ⟨name, rfl⟩
  | numbered stem number => exact ⟨_, rfl⟩

/-- A tenant has one cluster-wide key of a kind at most. -/
theorem eq_of_owns_wide {other : Key} (h : Owns ns key) (h' : Owns ns other)
    (hwide : key.ns = none) (hwide' : other.ns = none) (hkind : key.kind = other.kind) :
    key = other := by
  rcases h with hin | rfl | rfl | rfl
  · rw [hwide] at hin
    cases hin
  all_goals rcases h' with hin | rfl | rfl | rfl
  any_goals rw [hwide'] at hin; cases hin
  any_goals rfl
  all_goals
    simp only [namespaceKey, clusterRoleKey, clusterRoleBindingKey] at hkind
    exact absurd hkind (by decide)

/-- What is made of parts with one outline has one key if this does not depend on a number. -/
theorem Made.key_eq {o o' : Key × Json} (ho : Made ns part o) (ho' : Made ns other o')
    (hpart : IsPart ns part) (hother : IsPart ns other) (houtline : outline part = outline other)
    (hfixed : Fixed part) : o.1 = o'.1 := by
  have hkind : part.1 = other.1 := by rw [← kind_outline part, houtline, kind_outline]
  have howns := ho.owns hpart
  have howns' := ho'.owns hother
  obtain ⟨given, hkey⟩ := ho.exists_key
  obtain ⟨given', hkey'⟩ := ho'.exists_key
  rcases hfixed with hwhole | hwide
  · obtain ⟨name, hfits⟩ := ho.fits
    obtain ⟨name', hfits'⟩ := ho'.fits
    have hname : name = name' := by
      apply String.toList_injective
      rw [hfits.whole hwhole, hfits'.whole (houtline ▸ hwhole), houtline]
    have hgiven : Name.text given = .text given' := by
      have h := hfits.text
      have h' := hfits'.text
      rw [hkey] at h
      rw [hkey'] at h'
      exact h.trans ((congrArg Name.text hname).trans h'.symm)
    rw [hkey, hkey', hkind, Name.text.inj hgiven]
  · refine eq_of_owns_wide howns howns' ?_ ?_ ?_
    · simp [hkey, partKey, hwide]
    · simp [hkey', partKey, hkind ▸ hwide]
    · simp [hkey, hkey', partKey, hkind]

/-! ## A tenant in a store -/

/-- A tenant is composed of what is made of some parts, which can stand beside each other. -/
structure Shows (ns : String) (config : Config) (parts : List (Kind × Json)) (s : Store) :
    Prop where
  housed : s.Housed
  labelled : s.Labelled
  objects : List.Forall₂ (Made ns) parts (owned ns s)
  known : ∀ part ∈ parts, ∃ username, part ∈ manifests ns username config config.variant
  apart : parts.Pairwise Apart

namespace Shows

variable (h : Shows ns config parts s)
include h

/-- A part is apart from all parts with other outlines. -/
theorem apart_of_new (hpart : part ∈ manifests ns username config config.variant)
    (hnew : outline part ∉ parts.map outline) : ∀ other ∈ parts, Apart other part := by
  intro other hother
  obtain ⟨another, hknown⟩ := h.known other hother
  refine (outline_eq_or_apart hknown hpart).resolve_left fun hsame ↦ hnew ?_
  exact hsame ▸ List.mem_map_of_mem hother

/-- The key of a part is free if no part of the tenant has its outline. -/
theorem free_of_new (hpart : part ∈ manifests ns username config config.variant)
    (hnew : outline part ∉ parts.map outline) {o : Key × Json} (ho : Made ns part o) :
    s.has o.1 = false := by
  rw [Bool.eq_false_iff, ne_eq, has_iff_owned (ho.owns (isPart_of_mem hpart))]
  rintro ⟨o', ho', hkey⟩
  obtain ⟨other, hother, hmade⟩ := exists_part_of_mem h.objects ho'
  exact (h.apart_of_new hpart hnew other hother).ne_key hmade ho hkey

/-- A key that does not depend on a number is taken exactly if a part of the tenant has its outline.
-/
theorem has_iff (hpart : part ∈ manifests ns username config config.variant) (hfixed : Fixed part)
    {o : Key × Json} (ho : Made ns part o) :
    s.has o.1 = true ↔ outline part ∈ parts.map outline := by
  constructor
  · intro hhas
    apply Classical.byContradiction
    intro hnew
    rw [h.free_of_new hpart hnew ho] at hhas
    cases hhas
  · intro hmem
    obtain ⟨other, hother, houtline⟩ := List.mem_map.mp hmem
    obtain ⟨another, hknown⟩ := h.known other hother
    obtain ⟨o', ho', hmade⟩ := exists_made_of_mem h.objects hother
    have hkey := ho.key_eq hmade (isPart_of_mem hpart) (isPart_of_mem hknown) houtline.symm hfixed
    exact (has_iff_owned (ho.owns (isPart_of_mem hpart))).mpr ⟨o', ho', hkey.symm⟩

/-- Of some kinds a tenant has one object at most, which is made of its only part of this kind. -/
theorem sole (hsole : kind ∈ soleKinds) :
    (owned ns s).filter (fun o ↦ o.1.kind = kind.name) = [] ∧
      parts.filter (fun part ↦ part.1.name = kind.name) = [] ∨
    ∃ part o, (owned ns s).filter (fun o ↦ o.1.kind = kind.name) = [o] ∧
      parts.filter (fun part ↦ part.1.name = kind.name) = [part] ∧ part.1 = kind ∧
      Made ns part o := by
  have hall := mem_all_of_sole kind hsole
  have hobjects : List.Forall₂ (Made ns) (parts.filter fun part ↦ part.1.name = kind.name)
      ((owned ns s).filter fun o ↦ o.1.kind = kind.name) := by
    refine List.rel_filter (fun part o hmade ↦ ?_) h.objects
    obtain ⟨name, hkey⟩ := hmade.exists_key
    show _ ↔ decide (o.1.kind = kind.name) = true
    rw [hkey]
    rfl
  have hparts : ∀ part ∈ parts.filter (fun part ↦ part.1.name = kind.name), part.1 = kind ∧
      ∃ username, part ∈ manifests ns username config config.variant := by
    intro part hpart
    obtain ⟨hmem, hname⟩ := List.mem_filter.mp hpart
    obtain ⟨username, hknown⟩ := h.known part hmem
    have hkind := Kind.eq_of_name _ (kind_mem_all hknown) _ hall (of_decide_eq_true hname)
    exact ⟨hkind, username, hknown⟩
  have hapart := h.apart.filter (fun part ↦ part.1.name = kind.name)
  cases hfilter : parts.filter fun part ↦ part.1.name = kind.name with
  | nil =>
    rw [hfilter] at hobjects
    exact .inl ⟨List.forall₂_nil_left_iff.mp hobjects, rfl⟩
  | cons part rest =>
    rw [hfilter] at hobjects hparts hapart
    obtain ⟨hkind, username, hknown⟩ := hparts part List.mem_cons_self
    have hrest : rest = [] := by
      rw [List.eq_nil_iff_forall_not_mem]
      intro other hother
      obtain ⟨hkind', another, hknown'⟩ := hparts other (List.mem_cons_of_mem _ hother)
      have houtline := outline_eq_of_kind hknown hknown' (hkind.trans hkind'.symm) (hkind ▸ hsole)
      refine (List.pairwise_cons.mp hapart).1 other hother ?_
      rw [houtline]
      exact Outline.clash_refl _
    subst hrest
    obtain ⟨o, rest, hmade, hnone, hone⟩ := List.forall₂_cons_left_iff.mp hobjects
    rw [List.forall₂_nil_left_iff.mp hnone] at hone
    exact .inr ⟨part, o, hone, rfl, hkind, hmade⟩

/-- If the key of one of these kinds is taken, then it is the only one of its kind. -/
theorem key_iff_kind (hsole : kind ∈ soleKinds) (hkind : key.kind = kind.name) (howns : Owns ns key)
    (hhas : s.has key = true) : ∀ o ∈ owned ns s, o.1 = key ↔ o.1.kind = kind.name := by
  intro o ho
  refine ⟨fun hkey ↦ hkey ▸ hkind, fun hsame ↦ ?_⟩
  obtain ⟨o', ho', hkey⟩ := (has_iff_owned howns).mp hhas
  have hmem : o ∈ (owned ns s).filter (fun o ↦ o.1.kind = kind.name) :=
    List.mem_filter.mpr ⟨ho, decide_eq_true hsame⟩
  have hmem' : o' ∈ (owned ns s).filter (fun o ↦ o.1.kind = kind.name) :=
    List.mem_filter.mpr ⟨ho', decide_eq_true (hkey ▸ hkind)⟩
  rcases h.sole hsole with ⟨hnone, -⟩ | ⟨part, found, hone, -⟩
  · rw [hnone] at hmem
    cases hmem
  · rw [hone] at hmem hmem'
    rw [← hkey, List.mem_singleton.mp hmem, List.mem_singleton.mp hmem']

/-- The tenant looks the same to a store with the same objects. -/
theorem congr (hhoused : t.Housed) (hlabelled : t.Labelled) (hobjects : owned ns t = owned ns s) :
    Shows ns config parts t where
  housed := hhoused
  labelled := hlabelled
  objects := hobjects ▸ h.objects
  known := h.known
  apart := h.apart

/-- A tenant that loses the objects under some keys loses the parts that go with them. -/
theorem filter (keep : Key → Bool) {keepPart : Kind × Json → Bool} (hhoused : t.Housed)
    (hlabelled : t.Labelled)
    (hkeep : ∀ part o, Made ns part o → (keepPart part = true ↔ keep o.1 = true))
    (hobjects : owned ns t = (owned ns s).filter fun o ↦ keep o.1) :
    Shows ns config (parts.filter keepPart) t where
  housed := hhoused
  labelled := hlabelled
  objects := by
    rw [hobjects]
    exact List.rel_filter (fun part o hmade ↦ hkeep part o hmade) h.objects
  known part hpart := h.known part (List.mem_filter.mp hpart).1
  apart := h.apart.filter _

end Shows

/-! ## Two stores -/

/-- The settings of two stores are the same, and so is the mark on the namespace of a tenant. -/
structure SameSettings (ns : String) (s t : Store) : Prop where
  failures : s.failures = t.failures
  holding : s.holding = t.holding
  mark : .text ns ∈ s.terminating ↔ .text ns ∈ t.terminating

/-- Sameness of settings goes over to stores with the settings of each side. -/
theorem SameSettings.congr {s' t' : Store} (h : SameSettings ns s t) (hs : SameSettings ns s s')
    (ht : SameSettings ns t t') : SameSettings ns s' t' where
  failures := hs.failures.symm.trans (h.failures.trans ht.failures)
  holding := hs.holding.symm.trans (h.holding.trans ht.holding)
  mark := hs.mark.symm.trans (h.mark.trans ht.mark)

/-- A trace leaves the settings as they are. -/
theorem sameSettings_noted (s : Store) (generated : Nat) (log : List Cluster.LogEntry) :
    SameSettings ns s (s.noted generated log) := ⟨rfl, rfl, Iff.rfl⟩

/-- A tenant looks the same in two stores, under the same settings. -/
structure Twins (ns : String) (config : Config) (parts : List (Kind × Json)) (s t : Store) :
    Prop where
  left : Shows ns config parts s
  right : Shows ns config parts t
  settings : SameSettings ns s t

namespace Twins

/-- The calls of the same kind have been given the same failure. -/
theorem failure?_eq (h : Twins ns config parts s t) (action : Cluster.Action) (kind : Kind) :
    s.failure? action kind = t.failure? action kind := by
  unfold Store.failure?
  rw [h.settings.failures]

/-- A key that does not depend on a number is taken in both stores or in none. -/
theorem has_eq (h : Twins ns config parts s t)
    (hpart : part ∈ manifests ns username config config.variant) (hfixed : Fixed part)
    {o : Key × Json} (ho : Made ns part o) : s.has o.1 = t.has o.1 := by
  rw [Bool.eq_iff_iff, h.left.has_iff hpart hfixed ho, h.right.has_iff hpart hfixed ho]

/-- The namespace of the tenant is there in both stores or in none. -/
theorem has_namespace_eq (h : Twins ns config parts s t) :
    s.has (namespaceKey (.text ns)) = t.has (namespaceKey (.text ns)) := by
  have hpart := namespacePart_mem ns "" config config.variant
  have hmade : Made ns (namespacePart ns) (namespaceKey (.text ns), tenantNamespace ns) :=
    .asGiven ns rfl
  exact h.has_eq hpart (.inr rfl) hmade

/-- What is checked before the key of a part comes to the same in both stores. -/
theorem admission_eq (h : Twins ns config parts s t) (hns : ns ≠ "") (kind : Kind) :
    s.admission kind (place ns kind) = t.admission kind (place ns kind) := by
  have hcheck : s.checkNamespace kind (place ns kind) = t.checkNamespace kind (place ns kind) := by
    unfold Store.checkNamespace place
    cases kind.namespaced with
    | false => rfl
    | true =>
      have hmark : s.isTerminating (.str ns) = t.isTerminating (.str ns) := by
        rw [Cluster.Store.isTerminating_str, Cluster.Store.isTerminating_str,
          decide_eq_decide.mpr h.settings.mark]
      simp only [if_true, Cluster.Store.hasNamespace_str _ hns, h.has_namespace_eq, hmark]
  unfold Store.admission
  rw [h.failure?_eq, hcheck]

/-- A tenant looks the same if its objects are the same in each of two other stores with the same
settings. -/
theorem congr {s' t' : Store} (h : Twins ns config parts s t) (hs : Shows ns config parts s')
    (ht : Shows ns config parts t') (hs' : SameSettings ns s s') (ht' : SameSettings ns t t') :
    Twins ns config parts s' t' := ⟨hs, ht, h.settings.congr hs' ht'⟩

end Twins

/-- Two objects that are the same, but for the number in a generated name. -/
inductive SameButNumber (ns : String) : Key × Json → Key × Json → Prop
  | same (o : Key × Json) : SameButNumber ns o o
  | numbered (kind : Kind) (stem : String) (manifest : Json) (number number' : Nat) :
      SameButNumber ns
        (partKey ns kind (stem ++ Store.generatedSuffix number),
          withName (stem ++ Store.generatedSuffix number) manifest)
        (partKey ns kind (stem ++ Store.generatedSuffix number'),
          withName (stem ++ Store.generatedSuffix number') manifest)

/-- What is made of one part is the same but for a number. -/
theorem Made.sameButNumber {o o' : Key × Json} (h : Made ns part o) (h' : Made ns part o') :
    SameButNumber ns o o' := by
  cases h with
  | asGiven name hname =>
    cases h' with
    | asGiven name' hname' =>
      obtain rfl : name = name' := Json.str.inj (hname.symm.trans hname')
      exact .same _
    | numbered stem number hopen => cases hname.symm.trans hopen
  | numbered stem number hopen hstem =>
    cases h' with
    | asGiven name' hname' => cases hname'.symm.trans hopen
    | numbered stem' number' hopen' hstem' =>
      obtain rfl : stem = stem' := Json.str.inj (hstem.symm.trans hstem')
      exact .numbered _ stem _ number number'

/-- What is made of some parts is the same but for numbers. -/
theorem forall₂_sameButNumber {objects objects' : List (Key × Json)}
    (h : List.Forall₂ (Made ns) parts objects) (h' : List.Forall₂ (Made ns) parts objects') :
    List.Forall₂ (SameButNumber ns) objects objects' := by
  induction h generalizing objects' with
  | nil =>
    rw [List.forall₂_nil_left_iff.mp h']
    exact .nil
  | cons hmade _ ih =>
    obtain ⟨o', rest, hmade', hrest, rfl⟩ := List.forall₂_cons_left_iff.mp h'
    exact .cons (hmade.sameButNumber hmade') (ih hrest)

/-- A tenant that looks the same in two stores has the same objects in both, but for numbers. -/
theorem Twins.objects (h : Twins ns config parts s t) :
    List.Forall₂ (SameButNumber ns) (owned ns s) (owned ns t) :=
  forall₂_sameButNumber h.left.objects h.right.objects

/-! ## Creating a part -/

private theorem sameSettings_create (s : Store) (kind : Kind) (manifest : Json) :
    SameSettings ns s (s.create kind manifest).2 := by
  rcases Cluster.Store.create_cases s kind manifest with ⟨f, after, log, he⟩ |
    ⟨name, given, object, after, log, key, -, -, -, he⟩
  · rw [he]
    exact ⟨rfl, rfl, Iff.rfl⟩
  · rw [he]
    exact ⟨rfl, rfl, Iff.rfl⟩

/-- A create that fails leaves the tenant as it was. -/
theorem Shows.create_error (h : Shows ns config parts s) (hpart : IsPart ns part)
    {f : Cluster.Failure} (hreply : (s.create part.1 part.2).1 = .error f) :
    Shows ns config parts (s.create part.1 part.2).2 := by
  refine h.congr (h.housed.handle hpart.orderly) (h.labelled.handle hpart.orderly) ?_
  rcases Cluster.Store.create_cases s part.1 part.2 with ⟨g, after, log, he⟩ |
    ⟨name, given, object, after, log, key, -, -, -, he⟩
  · rw [he]
    rfl
  · rw [he] at hreply
    cases hreply

/-- A create that succeeds adds the part to the tenant. -/
theorem Shows.create_ok (h : Shows ns config parts s) (hns : ns ≠ "")
    (hpart : part ∈ manifests ns username config config.variant)
    (hnew : outline part ∉ parts.map outline) {object : Json}
    (hreply : (s.create part.1 part.2).1 = .ok object) :
    Shows ns config (parts ++ [part]) (s.create part.1 part.2).2 := by
  have hshape := isPart_of_mem hpart
  have hobjects : List.Forall₂ (Made ns) (parts ++ [part])
      (owned ns (s.create part.1 part.2).2) := by
    rcases Cluster.Store.create_cases s part.1 part.2 with ⟨g, after, log, he⟩ |
      ⟨name, given, object, after, log, key, hd, hk, -, he⟩
    · rw [he] at hreply
      cases hreply
    · have hmade := hshape.made_of_draft hns hd hk
      have howned : Owns ns key := hmade.owns hshape
      have happend : owned ns ((s.noted after log).insert key object) =
          owned ns s ++ [(key, object)] := by
        unfold owned Store.insert
        rw [List.filter_append, List.filter_singleton, decide_eq_true howned]
        rfl
      rw [he, happend]
      exact List.rel_append h.objects (.cons hmade .nil)
  refine ⟨h.housed.handle hshape.orderly, h.labelled.handle hshape.orderly, hobjects, ?_, ?_⟩
  · intro other hother
    rcases List.mem_append.mp hother with hold | hlast
    · exact h.known other hold
    · obtain rfl := List.mem_singleton.mp hlast
      exact ⟨username, hpart⟩
  · refine List.pairwise_append.mpr
      ⟨h.apart, List.pairwise_singleton _ _, fun other hother q hq ↦ ?_⟩
    rw [List.mem_singleton.mp hq]
    exact h.apart_of_new hpart hnew other hother

/-- What the create of a part replies. -/
theorem reply_create (hns : ns ≠ "") (hpart : IsPart ns part) (s : Store) :
    ∃ name object, Made ns part (partKey ns part.1 name, object) ∧
      createdName (createStep part) object = .ok (.str name) ∧
      (s.create part.1 part.2).1 =
        match s.admission part.1 (place ns part.1) with
        | .error f => .error f
        | .ok () => if s.has (partKey ns part.1 name) = true
            then .error (Cluster.alreadyExistsFailure
              (Cluster.resourceText part.1.plural (.str name)))
            else .ok object := by
  obtain ⟨name, object, after, hd, hmade⟩ := hpart.draft hns s.generated
  refine ⟨name, object, hmade, Pipeline.createdName_of_draft hd _, ?_⟩
  rw [Cluster.Store.create_of_key hd (keyOf_place ns name part.1)]
  cases s.admission part.1 (place ns part.1) with
  | error f => rfl
  | ok u =>
    cases s.has (partKey ns part.1 name) with
    | false => rfl
    | true => rfl

/-- Creating a part fails in both stores with one failure, or it adds the part in both, unless the
key depends on a number and there is such a part already. -/
theorem Twins.create (h : Twins ns config parts s t) (hns : ns ≠ "")
    (hpart : part ∈ manifests ns username config config.variant)
    (hnew : Fixed part ∨ outline part ∉ parts.map outline) :
    (∃ f, (s.create part.1 part.2).1 = .error f ∧ (t.create part.1 part.2).1 = .error f ∧
      Twins ns config parts (s.create part.1 part.2).2 (t.create part.1 part.2).2) ∨
    ∃ object object' name name', (s.create part.1 part.2).1 = .ok object ∧
      (t.create part.1 part.2).1 = .ok object' ∧
      createdName (createStep part) object = .ok name ∧
      createdName (createStep part) object' = .ok name' ∧ outline part ∉ parts.map outline ∧
      Twins ns config (parts ++ [part]) (s.create part.1 part.2).2 (t.create part.1 part.2).2 := by
  have hshape := isPart_of_mem hpart
  obtain ⟨name, object, hmade, hname, hreply⟩ := reply_create hns hshape s
  obtain ⟨name', object', hmade', hname', hreply'⟩ := reply_create hns hshape t
  have hsettings := h.settings.congr (sameSettings_create s part.1 part.2)
    (sameSettings_create t part.1 part.2)
  have hfail {f : Cluster.Failure} (hs : (s.create part.1 part.2).1 = .error f)
      (ht : (t.create part.1 part.2).1 = .error f) :
      ∃ f, (s.create part.1 part.2).1 = .error f ∧ (t.create part.1 part.2).1 = .error f ∧
        Twins ns config parts (s.create part.1 part.2).2 (t.create part.1 part.2).2 :=
    ⟨f, hs, ht, h.left.create_error hshape hs, h.right.create_error hshape ht, hsettings⟩
  rw [← h.admission_eq hns] at hreply'
  cases hadmission : s.admission part.1 (place ns part.1) with
  | error f =>
    rw [hadmission] at hreply hreply'
    exact .inl (hfail hreply hreply')
  | ok u =>
    rw [hadmission] at hreply hreply'
    by_cases hmem : outline part ∈ parts.map outline
    · -- The key is taken in both stores, so it does not depend on a number.
      have hfixed := hnew.resolve_right fun hnot ↦ hnot hmem
      have hkey := hmade.key_eq hmade' hshape hshape rfl hfixed
      obtain rfl : name = name' := by simpa [partKey] using hkey
      have htaken := (h.left.has_iff hpart hfixed hmade).mpr hmem
      have htaken' := (h.right.has_iff hpart hfixed hmade').mpr hmem
      simp only [if_pos htaken] at hreply
      simp only [if_pos htaken'] at hreply'
      exact .inl (hfail hreply hreply')
    · have hfree := h.left.free_of_new hpart hmem hmade
      have hfree' := h.right.free_of_new hpart hmem hmade'
      simp only [hfree, if_neg Bool.false_ne_true] at hreply
      simp only [hfree', if_neg Bool.false_ne_true] at hreply'
      exact .inr ⟨object, object', _, _, hreply, hreply', hname, hname', hmem,
        h.left.create_ok hns hpart hmem hreply, h.right.create_ok hns hpart hmem hreply', hsettings⟩

/-! ## Deleting and listing -/

/-- A trace leaves the tenant as it was. -/
theorem Shows.logged (h : Shows ns config parts s) (action : Cluster.Action) (kind : Kind)
    (subject : Json) : Shows ns config parts (s.logged action kind subject) :=
  h.congr h.housed h.labelled rfl

/-- Traces in both stores make no difference. -/
theorem Twins.logged (h : Twins ns config parts s t) (action : Cluster.Action) (kind : Kind)
    (subject other : Json) :
    Twins ns config parts (s.logged action kind subject) (t.logged action kind other) :=
  h.congr (h.left.logged action kind subject) (h.right.logged action kind other)
    (sameSettings_noted s _ _) (sameSettings_noted t _ _)

private theorem owned_filter {s : Store} (keep keep' : Key → Bool)
    (h : ∀ o ∈ owned ns s, keep o.1 = keep' o.1) :
    owned ns { s with objects := s.objects.filter fun o ↦ keep o.1 } =
      (owned ns s).filter fun o ↦ keep' o.1 := by
  unfold owned
  rw [List.filter_filter, List.filter_filter]
  apply List.filter_congr
  intro o ho
  by_cases howned : Owns ns o.1
  · have hsame := h o (List.mem_filter.mpr ⟨ho, decide_eq_true howned⟩)
    simp [howned, hsame]
  · simp [howned]

/-- Erasing the key of a kind with one object at most takes away the part of this kind. -/
theorem Shows.erase (h : Shows ns config parts s) (hsole : kind ∈ soleKinds)
    (hplain : kind ≠ Kind.namespaces) (hkind : key.kind = kind.name) (howns : Owns ns key)
    (hhas : s.has key = true) :
    Shows ns config (parts.filter fun part ↦ part.1.name ≠ kind.name) (s.remove kind key) := by
  refine h.filter (fun key ↦ key.kind ≠ kind.name) ?_ h.labelled.remove (fun part o hmade ↦ ?_) ?_
  · exact h.housed.remove (Kind.eq_namespaces_of_name kind (mem_all_of_sole kind hsole)) hkind
  · obtain ⟨name, hkey⟩ := hmade.exists_key
    rw [hkey]
    rfl
  · unfold Store.remove
    rw [if_neg hplain]
    refine owned_filter (fun other ↦ other ≠ key) (fun key ↦ key.kind ≠ kind.name) fun o ho ↦ ?_
    rw [decide_eq_decide]
    exact not_congr (h.key_iff_kind hsole hkind howns hhas o ho)

/-- Dropping the namespace leaves the cluster-wide parts but the namespace itself. -/
theorem Shows.dropNamespace (h : Shows ns config parts s) :
    Shows ns config
      (parts.filter fun part ↦ part.1.namespaced = false ∧ part.1.name ≠ Kind.namespaces.name)
      (s.dropNamespace (.text ns)) := by
  refine h.filter (fun key ↦ key.ns = none ∧ key.kind ≠ Kind.namespaces.name)
    (h.housed.dropNamespace _) (h.labelled.mono fun o ho ↦ (List.mem_filter.mp ho).1)
    (fun part o hmade ↦ ?_) ?_
  · obtain ⟨name, hkey⟩ := hmade.exists_key
    rw [hkey, partKey]
    cases part.1.namespaced <;> simp
  · refine owned_filter (fun key ↦ key.ns ≠ some (.text ns) ∧ key ≠ namespaceKey (.text ns))
      (fun key ↦ key.ns = none ∧ key.kind ≠ Kind.namespaces.name) fun o ho ↦ ?_
    rw [decide_eq_decide]
    have howns : Owns ns o.1 := of_decide_eq_true (List.mem_filter.mp ho).2
    constructor
    · rintro ⟨houtside, hother⟩
      rcases howns with hin | hkey | hkey | hkey
      · exact absurd hin houtside
      · exact absurd hkey hother
      · rw [hkey]
        exact ⟨rfl, by simp only [clusterRoleKey]; decide⟩
      · rw [hkey]
        exact ⟨rfl, by simp only [clusterRoleBindingKey]; decide⟩
    · rintro ⟨hwide, hkind⟩
      exact ⟨by simp [hwide], fun hkey ↦ hkind (congrArg Key.kind hkey)⟩

private theorem sameSettings_remove (hplain : kind ≠ Kind.namespaces) (s : Store) (key : Key) :
    SameSettings ns s (s.remove kind key) := by
  unfold Store.remove
  rw [if_neg hplain]
  exact ⟨rfl, rfl, Iff.rfl⟩

/-- Deleting an object of a kind with one at most comes to the same in both stores, if it is there
in both or under one name. -/
theorem Twins.delete (h : Twins ns config parts s t) (hsole : kind ∈ soleKinds)
    (hplain : kind ≠ Kind.namespaces) {name name' given : Json} {key key' : Key}
    (hk : keyOf kind name given = .ok (some key)) (hk' : keyOf kind name' given = .ok (some key'))
    (howns : Owns ns key) (howns' : Owns ns key') (hhas : s.has key = t.has key')
    (hname : s.has key = false → name = name') :
    (s.delete kind name given).1 = (t.delete kind name' given).1 ∧
      ∃ parts', Twins ns config parts' (s.delete kind name given).2
        (t.delete kind name' given).2 := by
  have hlogged := h.logged .delete kind name name'
  rw [Cluster.Store.delete_of_key hk, Cluster.Store.delete_of_key hk', ← h.failure?_eq, ← hhas]
  cases s.failure? .delete kind with
  | some f => exact ⟨rfl, parts, hlogged⟩
  | none =>
    cases hh : s.has key with
    | false =>
      obtain rfl := hname hh
      exact ⟨rfl, parts, hlogged⟩
    | true =>
      refine ⟨rfl, _, hlogged.left.erase hsole hplain (Cluster.Store.keyOf_eq_some hk).2.1 howns hh,
        hlogged.right.erase hsole hplain (Cluster.Store.keyOf_eq_some hk').2.1 howns'
          (hhas.symm.trans hh), hlogged.settings.congr (sameSettings_remove hplain _ _)
          (sameSettings_remove hplain _ _)⟩

/-- Deleting the namespace comes to the same in both stores. -/
theorem Twins.delete_namespace (h : Twins ns config parts s t) :
    (s.delete Kind.namespaces (.str ns) .null).1 = (t.delete Kind.namespaces (.str ns) .null).1 ∧
      ∃ parts', Twins ns config parts' (s.delete Kind.namespaces (.str ns) .null).2
        (t.delete Kind.namespaces (.str ns) .null).2 := by
  have hk : keyOf Kind.namespaces (.str ns) .null = .ok (some (namespaceKey (.text ns))) := rfl
  have hlogged := h.logged .delete Kind.namespaces (.str ns) (.str ns)
  rw [Cluster.Store.delete_of_key hk, Cluster.Store.delete_of_key hk, ← h.failure?_eq,
    ← h.has_namespace_eq]
  cases s.failure? .delete Kind.namespaces with
  | some f => exact ⟨rfl, parts, hlogged⟩
  | none =>
    cases s.has (namespaceKey (.text ns)) with
    | false => exact ⟨rfl, parts, hlogged⟩
    | true =>
      refine ⟨rfl, ?_⟩
      simp only [if_true, Store.remove]
      have hholding := hlogged.settings.holding
      rw [← hholding]
      cases (s.logged .delete Kind.namespaces (.str ns)).holding with
      | false =>
        rw [if_neg Bool.false_ne_true, if_neg Bool.false_ne_true]
        exact ⟨_, hlogged.left.dropNamespace, hlogged.right.dropNamespace,
          hlogged.settings.congr ⟨rfl, rfl, Iff.rfl⟩ ⟨rfl, rfl, Iff.rfl⟩⟩
      | true =>
        rw [if_pos rfl, if_pos rfl]
        refine ⟨parts, hlogged.left.congr hlogged.left.housed hlogged.left.labelled rfl,
          hlogged.right.congr hlogged.right.housed hlogged.right.labelled rfl,
          hlogged.settings.failures, hlogged.settings.holding, ?_⟩
        simp [Cluster.Store.mem_terminating_terminate]

/-- What is listed of a kind with one object at most. -/
theorem Shows.listed (h : Shows ns config parts s) (hsole : kind ∈ soleKinds)
    (hnamespaced : kind.namespaced = true) :
    s.listed kind (.str ns) = [] ∧ parts.filter (fun part ↦ part.1.name = kind.name) = [] ∨
    ∃ part ∈ parts, ∃ o ∈ owned ns s, s.listed kind (.str ns) = [o] ∧
      parts.filter (fun part ↦ part.1.name = kind.name) = [part] ∧ part.1 = kind ∧
      Made ns part o := by
  have hlisted : s.listed kind (.str ns) = ((owned ns s).filter fun o ↦
      o.1.kind = kind.name).mergeSort fun a b ↦ a.1.name.le b.1.name := by
    unfold Store.listed owned
    congr 1
    rw [List.filter_filter]
    apply List.filter_congr
    intro o ho
    rw [Bool.eq_iff_iff]
    simp only [Store.isListed, hnamespaced, if_true, Name.isNamedBy, Name.ofJson_str,
      Bool.and_eq_true, decide_eq_true_iff]
    refine and_congr_right fun hkind ↦ ⟨fun hin ↦ .inl hin, fun howns ↦ ?_⟩
    obtain ⟨other, hother, hmade⟩ := exists_part_of_mem h.objects
      (List.mem_filter.mpr ⟨ho, decide_eq_true howns⟩)
    obtain ⟨username, hknown⟩ := h.known other hother
    obtain ⟨name, hkey⟩ := hmade.exists_key
    have hsame : other.1 = kind := by
      refine Kind.eq_of_name _ (kind_mem_all hknown) _ (mem_all_of_sole kind hsole) ?_
      rw [← hkind, hkey]
      rfl
    simp [hkey, partKey, hsame, hnamespaced]
  rcases h.sole hsole with ⟨hnone, hparts⟩ | ⟨part, o, hone, hparts, hkind, hmade⟩
  · rw [hlisted, hnone, List.mergeSort_nil]
    exact .inl ⟨rfl, hparts⟩
  · have hmem : o ∈ owned ns s := by
      have hmem : o ∈ (owned ns s).filter (fun o ↦ o.1.kind = kind.name) := by simp [hone]
      exact (List.mem_filter.mp hmem).1
    have hpart : part ∈ parts.filter fun part ↦ part.1.name = kind.name := by simp [hparts]
    rw [hlisted, hone, List.mergeSort_singleton]
    exact .inr ⟨part, (List.mem_filter.mp hpart).1, o, hmem, rfl, hparts, hkind, hmade⟩

/-- Listing a kind with one object at most fails in both stores with one failure, finds nothing in
both, or finds what is made of one part. -/
theorem Twins.list (h : Twins ns config parts s t) (hsole : kind ∈ soleKinds)
    (hnamespaced : kind.namespaced = true) :
    (∃ f, (s.list kind (.str ns)).1 = .error f ∧ (t.list kind (.str ns)).1 = .error f) ∨
    (s.list kind (.str ns)).1 = .ok [] ∧ (t.list kind (.str ns)).1 = .ok [] ∨
    ∃ part ∈ parts, ∃ o ∈ owned ns s, ∃ o' ∈ owned ns t, (s.list kind (.str ns)).1 = .ok [o.2] ∧
      (t.list kind (.str ns)).1 = .ok [o'.2] ∧ part.1 = kind ∧ Made ns part o ∧
      Made ns part o' := by
  have hlist := Cluster.Store.list_of_labelled h.left.labelled kind (.str ns)
  have hlist' := Cluster.Store.list_of_labelled h.right.labelled kind (.str ns)
  rw [← h.failure?_eq] at hlist'
  cases hf : s.failure? .list kind with
  | some f =>
    rw [hf] at hlist hlist'
    exact .inl ⟨f, hlist, hlist'⟩
  | none =>
    rw [hf] at hlist hlist'
    rcases h.left.listed hsole hnamespaced with ⟨hnone, hparts⟩ |
      ⟨part, hpart, o, ho, hone, hparts, hkind, hmade⟩
    · rcases h.right.listed hsole hnamespaced with ⟨hnone', -⟩ | ⟨part', -, -, -, -, hparts', -⟩
      · rw [hnone] at hlist
        rw [hnone'] at hlist'
        exact .inr (.inl ⟨hlist, hlist'⟩)
      · rw [hparts] at hparts'
        cases hparts'
    · rcases h.right.listed hsole hnamespaced with ⟨-, hparts'⟩ |
        ⟨part', -, o', ho', hone', hparts', -, hmade'⟩
      · rw [hparts] at hparts'
        cases hparts'
      · rw [hparts] at hparts'
        obtain rfl : part = part' := List.head_eq_of_cons_eq hparts'
        rw [hone] at hlist
        rw [hone'] at hlist'
        exact .inr (.inr ⟨part, hpart, o, ho, o', ho', hlist, hlist', hkind, hmade, hmade'⟩)

/-- Asking for the namespace fails in both stores with one failure or finds it in both. -/
theorem Twins.get_namespace (h : Twins ns config parts s t) :
    (∃ f, (s.get Kind.namespaces (.str ns) .null).1 = .error f ∧
      (t.get Kind.namespaces (.str ns) .null).1 = .error f) ∨
    ∃ object object', (s.get Kind.namespaces (.str ns) .null).1 = .ok object ∧
      (t.get Kind.namespaces (.str ns) .null).1 = .ok object' := by
  have hk : keyOf Kind.namespaces (.str ns) .null = .ok (some (namespaceKey (.text ns))) := rfl
  have hget := Cluster.Store.get_of_key (s := s) hk
  have hget' := Cluster.Store.get_of_key (s := t) hk
  rw [← h.failure?_eq, ← h.has_namespace_eq] at hget'
  cases hf : s.failure? .get Kind.namespaces with
  | some f =>
    rw [hf] at hget hget'
    exact .inl ⟨f, hget, hget'⟩
  | none =>
    rw [hf] at hget hget'
    cases hh : s.has (namespaceKey (.text ns)) with
    | false =>
      rw [hh] at hget hget'
      exact .inl ⟨_, hget, hget'⟩
    | true =>
      rw [hh] at hget hget'
      obtain ⟨object, hobject⟩ := hget
      obtain ⟨object', hobject'⟩ := hget'
      exact .inr ⟨object, object', hobject, hobject'⟩

end TenantBroker.Tenant
