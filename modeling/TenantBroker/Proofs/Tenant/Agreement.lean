import TenantBroker.Proofs.Tenant.Outline
import TenantBroker.Proofs.Tenant.References

/-!
# How the steps of a tenant agree

The steps that make a tenant, their manifests, and the steps that remove the tenant are written down
apart from each other. Here they are held against each other: each step against its manifest, the
steps of both variants and of two users, what a manifest names against the steps before it, and the
removal against what was made.
-/

namespace TenantBroker.Tenant

open Cluster (Kind)
open Pipeline (Step)

variable {ns username : String} {config : Config} {variant : Variant} {part other : Kind × Json}

/-! ## A step and its manifest -/

/-- A step creates the object that a manifest describes: both are of one kind, go by one name, and
are in the namespace of the tenant exactly if the kind has namespaces. -/
structure Creates (ns : String) (step : Step) (m : Json) : Prop where
  action : step.action = .create
  manifest : step.manifest = some m
  version : m.at? ["apiVersion"] = some (.str step.kind.apiVersion)
  kind : m.at? ["kind"] = some (.str step.kind.name)
  place : m.at? ["metadata", "namespace"] = if step.kind.namespaced then some (.str ns) else none
  stepPlace : step.ns = (m.at? ["metadata", "namespace"]).getD .null
  stepName : step.name = (m.at? ["metadata", "name"]).getD .null

/-- A path into the metadata of a manifest leads to one of their fields. -/
theorem at?_metadata (kind : Kind) (metadata body : List (String × Json)) (name : String) :
    (manifest kind (.obj metadata) body).at? ["metadata", name] = Json.field? metadata name :=
  Option.bind_fun_some _

/-- The step for a part creates what the manifest of the part describes. -/
theorem IsPart.creates (h : IsPart ns part) : Creates ns (createStep part) part.2 := by
  cases h with
  | @clusterWide kind name body hkind =>
    refine ⟨rfl, rfl, rfl, rfl, ?_, rfl, rfl⟩
    show _ = if kind.namespaced then _ else _
    rw [hkind]
    rfl
  | @named kind metadata name body hkind hname hplace =>
    refine ⟨rfl, rfl, rfl, rfl, ?_, ?_, ?_⟩
    · show _ = if kind.namespaced then _ else _
      rw [at?_metadata, hplace, hkind]
      rfl
    · rw [at?_metadata]
      exact metadataField_manifest _ _ _ _
    · rw [at?_metadata]
      exact metadataField_manifest _ _ _ _
  | @generated kind stem body hkind =>
    refine ⟨rfl, rfl, rfl, rfl, ?_, rfl, rfl⟩
    show _ = if kind.namespaced then _ else _
    rw [hkind]
    rfl

/-- Parts of one kind with one name of their own have one outline. -/
theorem IsPart.outline_eq (h : IsPart ns part) (hkind : part.1 = other.1)
    (hname : Step.metadataField part.2 "name" = Step.metadataField other.2 "name")
    (hown : Step.metadataField part.2 "name" ≠ .null) : outline part = outline other := by
  unfold outline
  rw [← hkind, ← hname]
  cases h with
  | clusterWide name body hwide => rw [hwide]; rfl
  | named name body hkind hfield =>
    rw [metadataField_manifest, hfield, hkind]
    rfl
  | generated stem body => exact absurd rfl hown

/-- Among the steps that make a tenant no two with a name have one kind and one name. -/
theorem pairwise_provisionSteps (ns username : String) (config : Config) (variant : Variant) :
    (provisionSteps ns username config variant).Pairwise fun step later ↦
      step.kind.name = later.kind.name → step.name = later.name → step.name = .null := by
  rw [provisionSteps_eq, List.pairwise_map]
  refine (apart_manifests ns username config variant).imp_of_mem ?_
  intro part other hpart hother hapart hkind hname
  apply Classical.byContradiction
  intro hown
  have hsame := Cluster.Kind.eq_of_name _ (kind_mem_all hpart) _ (kind_mem_all hother) hkind
  refine hapart ?_
  rw [(isPart_of_mem hpart).outline_eq hsame hname hown]
  exact Outline.clash_refl _

/-! ## What steps rest on -/

/-- Whatever a step names of the tenant's own objects is created by a step before it. -/
theorem created_before {before after : List Step} {step : Step} {m : Json}
    (h : provisionSteps ns username config variant = before ++ step :: after)
    (hm : step.manifest = some m) : ∀ target ∈ targets m, IsOwn ns target →
      ∃ earlier ∈ before, ∃ m', earlier.manifest = some m' ∧ described m' = target := by
  rw [provisionSteps_eq] at h
  obtain ⟨parts, rest, hparts, rfl, hrest⟩ := List.map_eq_append_iff.mp h
  obtain ⟨part, later, rfl, rfl, -⟩ := List.map_eq_cons_iff.mp hrest
  obtain rfl : part.2 = m := Option.some.inj hm
  intro target htarget hown
  have hfounded := founded_manifests ns username config variant
  rw [hparts, List.map_append, List.map_cons] at hfounded
  have hgiven := hfounded.rests target htarget hown
  rw [List.nil_append, List.map_map] at hgiven
  obtain ⟨earlier, hearlier, rfl⟩ := List.mem_map.mp hgiven
  exact ⟨createStep earlier, List.mem_map_of_mem hearlier, earlier.2, rfl, rfl⟩

/-! ## Two variants -/

/-- The steps of the standard variant are among those of the extended one, in their order. -/
theorem standard_sublist_extended (ns username : String) (config : Config) :
    (provisionSteps ns username config .standard).Sublist
      (provisionSteps ns username config .extended) := by
  rw [provisionSteps_eq, provisionSteps_eq]
  refine List.Sublist.map createStep ?_
  have hbindings : (bindings ns username .standard).Sublist (bindings ns username .extended) :=
    (List.Sublist.refl _).append (List.nil_sublist _)
  rw [manifests_eq, manifests_eq]
  exact ((((List.Sublist.refl _).append (List.nil_sublist _)).append
    (hbindings.map _)).append (List.Sublist.refl _)).append (List.nil_sublist _)

/-! ## Two users -/

/-- Whether a subject is a user. -/
def isUser (subject : Json) : Bool := (subject.at? ["kind"]).bind Json.text? = some "User"

/-- The users among the subjects of a manifest. -/
def userSubjects (m : Json) : List Json := (m.itemsAt "subjects").filter isUser

/-- A subject with another name if it is a user. -/
def renamed (username : String) : Json → Json
  | .obj fields =>
    if isUser (.obj fields) then .obj (Json.setField fields "name" (.str username)) else .obj fields
  | subject => subject

/-- A manifest with another name for the users among its subjects. -/
def withUser (username : String) : Json → Json
  | .obj fields =>
    match Json.field? fields "subjects" with
    | some (.arr subjects) =>
      .obj (Json.setField fields "subjects" (.arr (subjects.map (renamed username))))
    | _ => .obj fields
  | m => m

/-- A step with another name for the users among the subjects of its manifest. -/
def forUser (username : String) (step : Step) : Step :=
  { step with manifest := step.manifest.map (withUser username) }

/-- The users among the subjects are not in the metadata. -/
theorem metadata_withUser (username : String) (m : Json) :
    (withUser username m).metadata = m.metadata := by
  cases m with
  | obj fields =>
    have hne : "metadata" ≠ "subjects" := by decide
    rw [withUser]
    split
    · simp only [Json.metadata, Json.get, Json.getD, Json.fields, Except.map,
        Json.field?_setField_of_ne _ _ hne]
    · rfl
  | _ => rfl

/-- The step for a part with another user is the step for the part, with this user. -/
theorem createStep_withUser (username : String) (part : Kind × Json) :
    createStep (part.1, withUser username part.2) = forUser username (createStep part) := by
  simp only [createStep, forUser, Step.ofManifest, Step.metadataField, metadata_withUser,
    Option.map_some]

/-- The steps for another user are the same but for the name of the users that they bind. -/
theorem provisionSteps_forUser (ns username another : String) (config : Config)
    (variant : Variant) : provisionSteps ns another config variant =
      (provisionSteps ns username config variant).map (forUser another) := by
  have hmanifests : manifests ns another config variant =
      (manifests ns username config variant).map fun part ↦ (part.1, withUser another part.2) := by
    cases variant with
    | standard => rfl
    | extended => rfl
  rw [provisionSteps_eq, provisionSteps_eq, hmanifests, List.map_map, List.map_map]
  exact List.map_congr_left fun part _ ↦ createStep_withUser another part

/-- A part binds no user, or it is a binding of the namespace and binds the tenant's user alone. -/
theorem userSubjects_of_mem (h : part ∈ manifests ns username config variant) :
    userSubjects part.2 = [] ∨
      part.1 = Kind.roleBindings ∧ userSubjects part.2 = [userSubject username] := by
  have h := mem_extended h
  simp only [manifests_eq, bindings, systemRoleBindings, if_true, List.map_append, List.map_cons,
    List.map_nil, List.mem_append, List.mem_cons, List.not_mem_nil, or_false, or_assoc] at h
  rcases h with rfl | rfl | rfl | rfl | rfl | rfl | rfl | rfl | rfl | rfl | rfl | rfl | rfl | rfl |
    rfl | rfl | rfl | rfl
  any_goals exact .inl rfl
  all_goals exact .inr ⟨rfl, rfl⟩

/-- The users that a step binds are the tenant's own, and the step makes a binding in the namespace.
-/
theorem user_of_mem {step : Step} {m subject : Json}
    (hstep : step ∈ provisionSteps ns username config variant) (hm : step.manifest = some m)
    (hsubject : subject ∈ userSubjects m) :
    subject = userSubject username ∧ step.kind = Kind.roleBindings ∧ step.ns = .str ns := by
  obtain ⟨part, hpart, rfl⟩ := mem_provisionSteps.mp hstep
  obtain rfl : part.2 = m := Option.some.inj hm
  rcases userSubjects_of_mem hpart with hnone | ⟨hkind, hone⟩
  · rw [hnone] at hsubject
    cases hsubject
  · rw [hone] at hsubject
    have hcreates := (isPart_of_mem hpart).creates
    refine ⟨List.mem_singleton.mp hsubject, hkind, ?_⟩
    rw [hcreates.stepPlace, hcreates.place,
      show (createStep part).kind = Kind.roleBindings from hkind]
    rfl

/-! ## Making and removing -/

/-- What a step deletes or creates: the kind, the namespace and the name. -/
def address (step : Step) : Kind × Json × Json := (step.kind, step.ns, step.name)

/-- The kind and the namespace of what a step deletes or creates. -/
def scope (step : Step) : Kind × Json := (step.kind, step.ns)

/-- The objects that a removal deletes by name are the cluster-wide ones that were made, in the
opposite order. -/
theorem deletes_eq_reverse (ns username : String) (config : Config) (variant : Variant) :
    ((deprovisionSteps ns).filter (·.action = .delete)).map address =
      (((provisionSteps ns username config variant).filter (!·.kind.namespaced)).map
        address).reverse := by
  cases variant with
  | standard => rfl
  | extended => rfl

/-- The kinds of which a removal deletes all objects are the custom ones of which a tenant of the
extended variant has an object, in the opposite order. -/
theorem sweeps_eq_reverse (ns username : String) (config : Config) :
    ((deprovisionSteps ns).filter (·.action = .deleteAll)).map scope =
      (((provisionSteps ns username config .extended).filter (·.kind.custom)).map
        scope).reverse := rfl

/-- A removal deletes all objects of a kind before it deletes any by name. -/
theorem sweeps_first (ns : String) : (deprovisionSteps ns).Pairwise fun step later ↦
    later.action = .deleteAll → step.action = .deleteAll := by
  simp [deprovisionSteps, recordKinds, Step.deleteAll, Step.delete]

/-- The steps that make a tenant agree with their manifests, with each other and with the steps that
remove the tenant. Each step creates what its manifest describes, and no two have one kind and one
name of their own. What a manifest names of the tenant's own objects is created by a step before it.
Only bindings of the namespace may exist already. The standard steps are among the extended ones.
Another user makes no difference but in the subjects that are users, and these are bound in the
namespace alone. The removal first deletes all objects of the custom kinds, and then by name the
cluster-wide objects that were made, each in the opposite order, and the namespace with all that is
left in it at last. -/
theorem steps_agree (ns username : String) (config : Config) (variant : Variant) :
    let steps := provisionSteps ns username config variant
    let removal := deprovisionSteps ns
    (∀ step ∈ steps, ∃ m, Creates ns step m) ∧
    (steps.Pairwise fun step later ↦
      step.kind.name = later.kind.name → step.name = later.name → step.name = .null) ∧
    (∀ before step after m, steps = before ++ step :: after → step.manifest = some m →
      ∀ target ∈ targets m, IsOwn ns target →
        ∃ earlier ∈ before, ∃ m', earlier.manifest = some m' ∧ described m' = target) ∧
    (∀ step ∈ steps, step.toleratesExisting = true ↔ step.kind = Kind.roleBindings) ∧
    (provisionSteps ns username config .standard).Sublist
      (provisionSteps ns username config .extended) ∧
    (∀ another, provisionSteps ns another config variant = steps.map (forUser another)) ∧
    (∀ step ∈ steps, ∀ m, step.manifest = some m → ∀ subject ∈ userSubjects m,
      subject = userSubject username ∧ step.kind = Kind.roleBindings ∧ step.ns = .str ns) ∧
    (removal.filter (·.action = .delete)).map address =
      ((steps.filter (!·.kind.namespaced)).map address).reverse ∧
    (removal.filter (·.action = .deleteAll)).map scope =
      (((provisionSteps ns username config .extended).filter (·.kind.custom)).map scope).reverse ∧
    (removal.Pairwise fun step later ↦ later.action = .deleteAll → step.action = .deleteAll) ∧
    removal.getLast? = some (Step.delete Kind.namespaces (.str ns) .null) := by
  intro steps removal
  refine ⟨fun step hstep ↦ ?_, pairwise_provisionSteps ns username config variant,
    fun before step after m hsplit hm ↦ created_before hsplit hm, fun step hstep ↦ ?_,
    standard_sublist_extended ns username config,
    fun another ↦ provisionSteps_forUser ns username another config variant,
    fun step hstep m hm subject ↦ user_of_mem hstep hm,
    deletes_eq_reverse ns username config variant, sweeps_eq_reverse ns username config,
    sweeps_first ns, rfl⟩
  · obtain ⟨part, hpart, rfl⟩ := mem_provisionSteps.mp hstep
    exact ⟨part.2, (isPart_of_mem hpart).creates⟩
  · obtain ⟨part, -, rfl⟩ := mem_provisionSteps.mp hstep
    exact decide_eq_true_iff

/-- In the extended variant the last binding of the namespace grants the user a role that a step
before it creates. -/
theorem steps_agree_extended :
    let steps := provisionSteps "rhpam-a" "u" {} .extended
    let role : Target := ⟨some (.str "Role"), some (.str "rhpam-a"), some (.str userRoleName)⟩
    ∃ earlier ∈ steps.take 12, ∃ m, earlier.manifest = some m ∧ described m = role := by
  intro steps role
  obtain ⟨-, -, hbefore, -⟩ := steps_agree "rhpam-a" "u" {} .extended
  have hsplit : steps = steps.take 12 ++
      createStep (Kind.roleBindings, userRoleBinding "rhpam-a" "u") :: steps.drop 13 := rfl
  exact hbefore _ _ _ _ hsplit rfl role List.mem_cons_self (.inl rfl)

end TenantBroker.Tenant
