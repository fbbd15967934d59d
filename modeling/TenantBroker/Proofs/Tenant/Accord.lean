import TenantBroker.Proofs.Pipeline.Mirror
import TenantBroker.Proofs.Tenant.Frame
import TenantBroker.Proofs.Tenant.Twins

/-!
# The pipelines of one tenant in two stores

A tenant that looks the same in two stores is made and removed alike in both, although in one of
them other tenants make calls in between. Both pipelines come to the same end, and the tenant looks
the same after it. What could tell the stores apart are names with numbers. None of them is taken
when a part is made, since the parts before it are apart from it, and a removal goes by the names
that it has listed.
-/

namespace TenantBroker.Tenant

open Cluster (Call Kind Store keyOf namespaceKey)
open Cluster.Program
open Cluster.Store (handle)
open Pipeline (Anyhow Step deleteItems runAction runPipeline)

variable {ns username : String} {config : Config} {part : Kind × Json}
  {parts made : List (Kind × Json)} {s s' t : Store} {kind : Kind}

/-! ## What others do -/

/-- A call of another tenant. -/
def Foreign (ns : String) (s s' : Store) : Prop :=
  ∃ c other, other ≠ ns ∧ Call.Orderly c ∧ Concerns other c ∧ s' = (handle c s).2

/-- A call of another tenant leaves the settings as they are, and the mark on the namespace. -/
theorem Foreign.sameSettings (h : Foreign ns s s') : SameSettings ns s s' := by
  obtain ⟨c, other, hne, -, hconcerns, rfl⟩ := h
  obtain ⟨hfailures, hholding, -⟩ := Cluster.Store.handle_settings c s
  exact ⟨hfailures.symm, hholding.symm,
    ((confined_handle hconcerns s).untouched hne.symm).terminating.symm⟩

/-- A call of another tenant leaves the objects of the tenant as they are. -/
theorem Foreign.owned_eq (h : Foreign ns s s') : owned ns s' = owned ns s := by
  obtain ⟨c, other, hne, -, hconcerns, rfl⟩ := h
  exact ((confined_handle hconcerns s).untouched hne.symm).objects

/-- A tenant looks as before after a call of another one. -/
theorem Foreign.shows (h : Foreign ns s s') (hs : Shows ns config parts s) :
    Shows ns config parts s' := by
  have howned := h.owned_eq
  obtain ⟨c, other, -, horderly, -, rfl⟩ := h
  exact hs.congr (hs.housed.handle horderly) (hs.labelled.handle horderly) howned

/-- A tenant that is composed of some parts in both stores remains so. -/
theorem enduring_twins (ns : String) (config : Config) (parts : List (Kind × Json)) :
    Enduring (Foreign ns) (Twins ns config parts) := fun _ _ _ hforeign h ↦
  h.congr (hforeign.shows h.left) h.right hforeign.sameSettings ⟨rfl, rfl, Iff.rfl⟩

/-- A tenant looks the same in two stores. -/
def Twin (ns : String) (config : Config) (s t : Store) : Prop :=
  ∃ parts, Twins ns config parts s t

/-- A tenant that looks the same in two stores goes on to do so. -/
theorem enduring_twin (ns : String) (config : Config) : Enduring (Foreign ns) (Twin ns config) := by
  rintro t s s' hforeign ⟨parts, h⟩
  exact ⟨parts, enduring_twins ns config parts t hforeign h⟩

/-- A trace in either store makes no difference. -/
theorem Twin.logged (h : Twin ns config s t) (action : Cluster.Action) (kind : Kind)
    (name name' : Json) : Twin ns config (s.logged action kind name) (t.logged action kind name') :=
  h.imp fun _ h ↦ h.logged action kind name name'

/-! ## Making a tenant -/

/-- A tenant looks the same in two stores, and some parts are all that it has in its namespace. -/
def Building (ns : String) (config : Config) (made : List (Kind × Json)) (s t : Store) : Prop :=
  ∃ parts, Twins ns config parts s t ∧
    ∀ part ∈ parts, part.1.namespaced = true → outline part ∈ made.map outline

/-- A tenant that is being made looks the same. -/
theorem Building.twin (h : Building ns config made s t) : Twin ns config s t :=
  h.imp fun _ h ↦ h.1

/-- What a tenant has in its namespace lasts. -/
theorem enduring_building (ns : String) (config : Config) (made : List (Kind × Json)) :
    Enduring (Foreign ns) (Building ns config made) := by
  rintro t s s' hforeign ⟨parts, h, hmade⟩
  exact ⟨parts, enduring_twins ns config parts t hforeign h, hmade⟩

/-- Without its namespace a tenant has cluster-wide parts only. -/
theorem Shows.wide_of_new (h : Shows ns config parts s)
    (hnew : outline (namespacePart ns) ∉ parts.map outline) (hpart : part ∈ parts) :
    part.1.namespaced = false := by
  have hmem := namespacePart_mem ns "" config config.variant
  have hfree : s.has (namespaceKey (.text ns)) = false :=
    h.free_of_new hmem hnew (.asGiven ns rfl)
  obtain ⟨o, ho, hmade⟩ := exists_made_of_mem h.objects hpart
  obtain ⟨name, hkey⟩ := hmade.exists_key
  have houtside := h.housed.vacant hfree (List.mem_filter.mp ho).1
  rw [Bool.eq_false_iff]
  intro hin
  simp [hkey, partKey, hin] at houtside

/-- Making a tenant begins alike in both stores. If its namespace is made, then this is all that the
tenant has in it. -/
theorem agree_namespacePart (hns : ns ≠ "") (config : Config) :
    Agree handle (Foreign ns) (Twin ns config) (Building ns config [namespacePart ns])
      (Twin ns config) Anyhow (runAction (createStep (namespacePart ns)))
      (runAction (createStep (namespacePart ns))) := by
  have hmem := namespacePart_mem ns "" config config.variant
  have htolerates : (createStep (namespacePart ns)).toleratesExisting = false := by
    have hplain : Kind.namespaces ≠ Kind.roleBindings := by decide
    exact decide_eq_false hplain
  refine Pipeline.agree_create (enduring_twin ns config) (enduring_building ns config _)
    (enduring_twin ns config) rfl rfl ?_
  rintro s t ⟨parts, h⟩
  rcases h.create hns hmem (.inl (.inr rfl)) with ⟨f, hf, hf', hafter⟩ |
    ⟨object, object', name, name', hobject, hobject', hname, hname', hnew, hafter⟩
  · exact .inl ⟨f, hf, hf', ⟨parts, hafter⟩,
      fun ht ↦ absurd (htolerates.symm.trans ht) Bool.false_ne_true⟩
  · refine .inr ⟨object, object', name, name', hobject, hobject', hname, hname',
      parts ++ [namespacePart ns], hafter, fun part hpart hin ↦ ?_⟩
    rcases List.mem_append.mp hpart with hbefore | hlast
    · rw [h.left.wide_of_new hnew hbefore] at hin
      cases hin
    · exact List.mem_map_of_mem hlast

/-- A part is made alike in both stores if it is apart from the parts in the namespace. -/
theorem agree_part (hns : ns ≠ "") (hpart : part ∈ manifests ns username config config.variant)
    (hapart : ∀ other ∈ made, Apart other part) :
    Agree handle (Foreign ns) (Building ns config made) (Building ns config (made ++ [part]))
      (Twin ns config) Anyhow (runAction (createStep part)) (runAction (createStep part)) := by
  refine Pipeline.agree_create (enduring_building ns config made) (enduring_building ns config _)
    (enduring_twin ns config) rfl rfl ?_
  rintro s t ⟨parts, h, hmade⟩
  have hmore (other : Kind × Json) (hother : other ∈ parts) (hin : other.1.namespaced = true) :
      outline other ∈ (made ++ [part]).map outline := by
    rw [List.map_append]
    exact List.mem_append_left _ (hmade other hother hin)
  -- A key that depends on a number lies in the namespace, where no part leaves room for it.
  have hnew : Fixed part ∨ outline part ∉ parts.map outline := by
    rw [Classical.or_iff_not_imp_left]
    intro hopen hmem
    obtain ⟨other, hother, hsame⟩ := List.mem_map.mp hmem
    have hin : other.1.namespaced = true := by
      rw [← kind_outline other, hsame, kind_outline, ← Bool.not_eq_false]
      exact fun hwide ↦ hopen (.inr hwide)
    obtain ⟨before, hbefore, hsame'⟩ := List.mem_map.mp (hmade other hother hin)
    refine hapart before hbefore ?_
    rw [hsame', hsame]
    exact Outline.clash_refl _
  rcases h.create hns hpart hnew with ⟨f, hf, hf', hafter⟩ |
    ⟨object, object', name, name', hobject, hobject', hname, hname', -, hafter⟩
  · exact .inl ⟨f, hf, hf', ⟨parts, hafter⟩, fun _ ↦ ⟨parts, hafter, hmore⟩⟩
  · refine .inr ⟨object, object', name, name', hobject, hobject', hname, hname', _, hafter, ?_⟩
    intro other hother hin
    rcases List.mem_append.mp hother with hbefore | hlast
    · exact hmore other hbefore hin
    · rw [List.map_append]
      exact List.mem_append_right _ (List.mem_map_of_mem hlast)

/-- Parts that are apart are made alike in both stores. The induction is on the parts, and those
made so far say what is in the namespace. -/
theorem agree_parts (hns : ns ≠ "") (instanceId : String) (parts made : List (Kind × Json))
    (hparts : ∀ part ∈ parts, part ∈ manifests ns username config config.variant)
    (hapart : (made ++ parts).Pairwise Apart) :
    Agree handle (Foreign ns) (Building ns config made) (Building ns config (made ++ parts))
      (Twin ns config) Anyhow (runPipeline instanceId (parts.map createStep))
      (runPipeline instanceId (parts.map createStep)) := by
  induction parts generalizing made with
  | nil =>
    rw [List.append_nil]
    exact Pipeline.agree_runPipeline_nil (enduring_building ns config made) instanceId
  | cons part others ih =>
    rw [List.append_cons] at hapart ⊢
    refine Pipeline.agree_runPipeline_cons (enduring_building ns config (made ++ [part]))
      (enduring_twin ns config) (enduring_building ns config _) (fun _ _ h ↦ h.twin) instanceId ?_
      (ih _ (fun other hother ↦ hparts other (List.mem_cons_of_mem _ hother)) hapart)
    exact agree_part hns (hparts part List.mem_cons_self) fun other hother ↦
      (List.pairwise_append.mp (List.pairwise_append.mp hapart).1).2.2 other hother part
        List.mem_cons_self

/-- A tenant is made alike in both stores. -/
theorem agree_provisionSteps (hns : ns ≠ "") (instanceId username : String) (config : Config) :
    Agree handle (Foreign ns) (Twin ns config) (Twin ns config) (Twin ns config) Anyhow
      (runPipeline instanceId (provisionSteps ns username config config.variant))
      (runPipeline instanceId (provisionSteps ns username config config.variant)) := by
  have hapart := apart_manifests ns username config config.variant
  have hmem : ∀ part ∈ laterParts ns username config config.variant,
      part ∈ manifests ns username config config.variant := fun part hpart ↦
    List.mem_of_mem_tail hpart
  rw [manifests_eq_cons, ← List.singleton_append] at hapart
  have hlater := agree_parts hns instanceId _ _ hmem hapart
  rw [provisionSteps_eq, manifests_eq_cons, List.map_cons]
  refine agree_mono (fun _ _ h ↦ h.twin) (Pipeline.agree_runPipeline_cons
    (enduring_building ns config [namespacePart ns]) (enduring_twin ns config)
    (enduring_building ns config _) (fun _ _ ↦ id) instanceId
    (agree_namespacePart hns config) hlater)

/-! ## Removing a tenant -/

/-- The object that has been listed in each store is deleted alike, although its name may depend on
a number. -/
theorem agree_deleteItems (config : Config) (hsole : kind ∈ soleKinds)
    (hnamespaced : kind.namespaced = true) {o o' : Cluster.Key × Json} {name name' : String}
    (ho : o.1 = partKey ns kind name) (ho' : o'.1 = partKey ns kind name')
    (hne : name ≠ "") (hne' : name' ≠ "")
    (hlisted : Pipeline.listedName o.2 = .ok (.str name))
    (hlisted' : Pipeline.listedName o'.2 = .ok (.str name')) :
    Agree handle (Foreign ns)
      (fun s t ↦ Twin ns config s t ∧ o ∈ owned ns s ∧ o' ∈ owned ns t) (Twin ns config)
      (Twin ns config) Anyhow
      (deleteItems kind (.str ns) [o.2]) (deleteItems kind (.str ns) [o'.2]) := by
  have htruthy {name : String} (hne : name ≠ "") : (Json.str name).isTruthy = true := by
    simpa [Json.isTruthy] using hne
  have hplain : kind ≠ Kind.namespaces := by
    rintro rfl
    cases hnamespaced
  have howns (name : String) : Owns ns (partKey ns kind name) :=
    .inl (by simp [partKey, hnamespaced])
  have hkey (name : String) :
      keyOf kind (.str name) (.str ns) = .ok (some (partKey ns kind name)) := by
    rw [← keyOf_place, place, if_pos hnamespaced]
  have htwin := enduring_twin ns config
  have hendures : Enduring (Foreign ns)
      fun s t ↦ Twin ns config s t ∧ o ∈ owned ns s ∧ o' ∈ owned ns t :=
    fun t s s' hforeign h ↦ ⟨htwin t hforeign h.1, hforeign.owned_eq ▸ h.2.1, h.2.2⟩
  simp only [deleteItems, hlisted, hlisted', htruthy hne, htruthy hne', if_true]
  refine agree_call hendures ?_
  rintro s t ⟨⟨parts, h⟩, hmem, hmem'⟩
  have hhas : s.has (partKey ns kind name) = true :=
    (has_iff_owned (howns name)).mpr ⟨o, hmem, ho⟩
  have hhas' : t.has (partKey ns kind name') = true :=
    (has_iff_owned (howns name')).mpr ⟨o', hmem', ho'⟩
  obtain ⟨hreply, hafter⟩ := h.delete hsole hplain (hkey name) (hkey name') (howns name)
    (howns name') (hhas.trans hhas'.symm) fun hnone ↦ by rw [hhas] at hnone; cases hnone
  simp only [handle, hreply]
  cases (t.delete kind (.str name') (.str ns)).1 with
  | ok u => exact agree_ok htwin trivial _ _ hafter
  | error f =>
    by_cases hf : f.isNotFound = true
    · simp only [hf, if_true]
      exact agree_ok htwin trivial _ _ hafter
    · simp only [if_neg hf]
      exact agree_error htwin f _ _ hafter

/-- The objects of a kind with one at most are deleted alike in both stores. -/
theorem agree_deleteAll (hsole : kind ∈ soleKinds) (hnamespaced : kind.namespaced = true)
    (config : Config) :
    Agree handle (Foreign ns) (Twin ns config) (Twin ns config) (Twin ns config) Anyhow
      (runAction (.deleteAll kind (.str ns))) (runAction (.deleteAll kind (.str ns))) := by
  have htwin := enduring_twin ns config
  simp only [runAction, Step.deleteAll, Pipeline.runDeleteAll]
  refine agree_call htwin ?_
  rintro s t ⟨parts, h⟩
  have hafter : Twin ns config (handle (.list kind (.str ns)) s).2
      (handle (.list kind (.str ns)) t).2 := by
    simp only [handle, Cluster.Store.list_snd]
    exact Twin.logged ⟨parts, h⟩ _ _ _ _
  rcases h.list hsole hnamespaced with ⟨f, hf, hf'⟩ | ⟨hnone, hnone'⟩ |
    ⟨part, -, o, ho, o', ho', hone, hone', rfl, hmade, hmade'⟩
  · simp only [handle, hf, hf']
    by_cases hnotFound : f.isNotFound = true
    · simp only [hnotFound, if_true]
      exact agree_ok htwin trivial _ _ hafter
    · simp only [if_neg hnotFound]
      exact agree_error htwin f _ _ hafter
  · simp only [handle, hnone, hnone']
    exact agree_ok htwin trivial _ _ hafter
  · obtain ⟨name, hkey⟩ := hmade.exists_key
    obtain ⟨name', hkey'⟩ := hmade'.exists_key
    obtain ⟨text, htext, hne, hlisted⟩ := h.left.labelled o (List.mem_filter.mp ho).1
    obtain ⟨text', htext', hne', hlisted'⟩ := h.right.labelled o' (List.mem_filter.mp ho').1
    rw [hkey] at htext
    rw [hkey'] at htext'
    obtain rfl : name = text := Cluster.Name.text.inj htext
    obtain rfl : name' = text' := Cluster.Name.text.inj htext'
    have hitems := agree_deleteItems config hsole hnamespaced hkey hkey' hne hne' hlisted hlisted'
    simp only [handle, hone, hone']
    refine agree_map (S := Anyhow) htwin htwin hitems ?_ ?_ _ _ ⟨hafter, ?_, ?_⟩
    · exact fun a b _ ↦ ⟨_, _, rfl, rfl, trivial⟩
    · exact fun f ↦ ⟨f, rfl, rfl⟩
    · rw [Cluster.Store.list_snd]
      exact ho
    · rw [Cluster.Store.list_snd]
      exact ho'

/-- A cluster-wide part is deleted alike in both stores. -/
theorem agree_deleteWide (hsole : kind ∈ soleKinds) (hplain : kind ≠ Kind.namespaces)
    (hwide : kind.namespaced = false) (manifest : Json) {name : String} {config : Config}
    (hpart : (kind, manifest) ∈ manifests ns "" config config.variant)
    (hname : Step.metadataField manifest "name" = .str name) :
    Agree handle (Foreign ns) (Twin ns config) (Twin ns config) (Twin ns config) Anyhow
      (runAction (.delete kind (.str name) .null))
      (runAction (.delete kind (.str name) .null)) := by
  refine Pipeline.agree_delete (enduring_twin ns config) rfl ?_
  rintro s t ⟨parts, h⟩
  have hmade : Made ns (kind, manifest) (partKey ns kind name, manifest) := .asGiven name hname
  have hkey : keyOf kind (.str name) .null = .ok (some (partKey ns kind name)) := by
    rw [← keyOf_place, place, hwide, if_neg Bool.false_ne_true]
  have howns := hmade.owns (isPart_of_mem hpart)
  exact h.delete hsole hplain hkey hkey howns howns (h.has_eq hpart (.inr hwide) hmade) fun _ ↦ rfl

/-- A tenant is removed alike in both stores. -/
theorem agree_deprovisionSteps (ns instanceId : String) (config : Config) :
    Agree handle (Foreign ns) (Twin ns config) (Twin ns config) (Twin ns config) Anyhow
      (runPipeline instanceId (deprovisionSteps ns))
      (runPipeline instanceId (deprovisionSteps ns)) := by
  apply Pipeline.agree_runPipeline (enduring_twin ns config)
  simp only [deprovisionSteps, recordKinds, List.map_cons, List.map_nil, List.cons_append,
    List.nil_append, List.forall_mem_cons, List.not_mem_nil, false_imp_iff, implies_true, and_true]
  refine ⟨?_, ?_, ?_, ?_, ?_⟩
  · exact agree_deleteAll (by decide) rfl config
  · exact agree_deleteAll (by decide) rfl config
  · exact agree_deleteWide (by decide) (by decide) rfl (clusterRoleBinding ns)
      (by simp [manifests_eq]) rfl
  · exact agree_deleteWide (by decide) (by decide) rfl (clusterRole ns) (by simp [manifests_eq]) rfl
  · refine Pipeline.agree_delete (enduring_twin ns config) rfl ?_
    rintro s t ⟨parts, h⟩
    exact h.delete_namespace

end TenantBroker.Tenant
