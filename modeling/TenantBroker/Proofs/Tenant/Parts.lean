import TenantBroker.Json.Writable
import TenantBroker.Proofs.Cluster.Housing
import TenantBroker.Proofs.Pipeline.Conduct
import TenantBroker.Tenant.Steps

/-!
# The parts of a tenant

Which keys belong to a tenant, what is made of its parts, and which calls its two pipelines make. A
part is stored as its manifest says, and only its name may be left to the cluster. The parts are
created under texts and all kinds are the broker's own, so both pipelines are orderly.
-/

namespace TenantBroker.Tenant

open Cluster (Call Key Kind Name Store keyOf namespaceKey)
open Cluster.Program
open Pipeline (Step)

/-- The key of the operator's account. -/
def accountKey (ns : String) : Key :=
  ⟨Kind.serviceAccounts.name, some (.text ns), .text operatorName⟩

/-- The key of the cluster-wide role of a tenant. -/
def clusterRoleKey (ns : String) : Key :=
  ⟨Kind.clusterRoles.name, none, .text (clusterScopedName ns)⟩

/-- The key of the binding of the cluster-wide role of a tenant. -/
def clusterRoleBindingKey (ns : String) : Key :=
  ⟨Kind.clusterRoleBindings.name, none, .text (clusterScopedName ns)⟩

/-- A key belongs to a tenant: it is in the tenant's namespace, or it is the namespace, the
cluster-wide role or the binding of this role. -/
def Owns (ns : String) (key : Key) : Prop :=
  key.ns = some (.text ns) ∨ key = namespaceKey (.text ns) ∨ key = clusterRoleKey ns ∨
    key = clusterRoleBindingKey ns

instance (ns : String) (key : Key) : Decidable (Owns ns key) :=
  inferInstanceAs (Decidable (_ ∨ _))

/-- The objects of a tenant. -/
def owned (ns : String) (s : Store) : List (Key × Json) := s.objects.filter fun o ↦ Owns ns o.1

/-- The tenant owns an object under its key exactly if the store has one. -/
theorem has_iff_owned {ns : String} {s : Store} {key : Key} (h : Owns ns key) :
    s.has key = true ↔ ∃ o ∈ owned ns s, o.1 = key := by
  rw [Cluster.Store.has_iff]
  constructor
  · rintro ⟨object, hmem⟩
    exact ⟨(key, object), List.mem_filter.mpr ⟨hmem, decide_eq_true h⟩, rfl⟩
  · rintro ⟨o, ho, rfl⟩
    exact ⟨o.2, (List.mem_filter.mp ho).1⟩

/-- The namespace of an instance is its joined name. -/
theorem eq_joinedName {stem instanceId ns : String} (h : namespaceFor stem instanceId = .ok ns) :
    ns = joinedName stem instanceId := by
  unfold namespaceFor at h
  split at h
  · cases h
  · split at h
    · exact (Except.ok.inj h).symm
    · cases h

/-- Two instances share no namespace. -/
theorem joinedName_inj {stem instanceId other : String} :
    joinedName stem instanceId = joinedName stem other ↔ instanceId = other := by
  simp [joinedName]

/-- A namespace belongs to one instance. -/
theorem instance_unique {stem instanceId other ns : String}
    (h : namespaceFor stem instanceId = .ok ns) (h' : namespaceFor stem other = .ok ns) :
    instanceId = other :=
  joinedName_inj.mp ((eq_joinedName h).symm.trans (eq_joinedName h'))

/-- The name of a namespace is never empty. -/
theorem namespace_ne_empty {stem instanceId ns : String}
    (h : namespaceFor stem instanceId = .ok ns) : ns ≠ "" := by
  rw [eq_joinedName h]
  simp [joinedName]

/-- Two namespaces share no name of a cluster-wide role. -/
theorem clusterScopedName_inj {ns other : String} :
    clusterScopedName ns = clusterScopedName other ↔ ns = other := by
  simp [clusterScopedName]

/-- The name of a cluster-wide role is never empty. -/
theorem clusterScopedName_ne_empty (ns : String) : clusterScopedName ns ≠ "" := by
  simp [clusterScopedName, operatorName]

@[simp] theorem clusterRoleKey_inj {ns other : String} :
    clusterRoleKey ns = clusterRoleKey other ↔ ns = other := by
  simp [clusterRoleKey, clusterScopedName_inj]

@[simp] theorem clusterRoleBindingKey_inj {ns other : String} :
    clusterRoleBindingKey ns = clusterRoleBindingKey other ↔ ns = other := by
  simp [clusterRoleBindingKey, clusterScopedName_inj]

/-- The account is no namespace. -/
@[simp] theorem accountKey_ne_namespaceKey (ns : String) (name : Name) :
    accountKey ns ≠ namespaceKey name := by simp [accountKey, namespaceKey]

/-- The cluster-wide role is no namespace. -/
@[simp] theorem clusterRoleKey_ne_namespaceKey (ns : String) (name : Name) :
    clusterRoleKey ns ≠ namespaceKey name :=
  fun h ↦ absurd (congrArg Key.kind h) (by simp [clusterRoleKey, namespaceKey]; decide)

/-! ## Drafts of parts -/

/-- The draft of a manifest has the manifest's own metadata, with the name filled in. -/
theorem draft_manifest (generated : Nat) (kind other : Kind)
    (metadata body : List (String × Json)) :
    Store.draft generated kind (manifest other (.obj metadata) body) =
      ((Store.named generated metadata).1.map fun (name, metadata') ↦
        (name, if kind.namespaced then (Json.field? metadata "namespace").getD .null else .null,
          manifest other (.obj metadata') body), (Store.named generated metadata).2) := rfl

/-- A manifest with a name of its own is drafted as it is. -/
theorem draft_of_name {kind other : Kind} {metadata body : List (String × Json)} {name : String}
    (h : Json.field? metadata "name" = some (.str name)) (hne : name ≠ "") (generated : Nat) :
    Store.draft generated kind (manifest other (.obj metadata) body) =
      (.ok (.str name,
        if kind.namespaced then (Json.field? metadata "namespace").getD .null else .null,
        manifest other (.obj metadata) body), generated) := by
  have htruthy : (Json.str name).isTruthy = true := by simpa [Json.isTruthy] using hne
  rw [draft_manifest]
  simp only [Store.named, h, Option.getD_some, htruthy, if_true, Except.map]

private theorem text_of_named {generated after : Nat} {metadata metadata' : List (String × Json)}
    {name : Json}
    (h : ∀ value, Json.field? metadata "name" = some value → ∃ text, value = .str text)
    (hn : Store.named generated metadata = (.ok (name, metadata'), after)) :
    ∃ text, name = .str text := by
  unfold Store.named at hn
  by_cases ht : ((Json.field? metadata "name").getD .null).isTruthy = true
  · simp only [if_pos ht, Prod.mk.injEq, Except.ok.injEq] at hn
    cases hv : Json.field? metadata "name" with
    | none => simp [hv, Json.isTruthy] at ht
    | some value =>
      obtain ⟨text, rfl⟩ := h value hv
      exact ⟨text, by rw [← hn.1.1, hv]; rfl⟩
  · rw [if_neg ht] at hn
    cases hg : Json.field? metadata "generateName" with
    | none => simp [hg] at hn
    | some stem =>
      simp only [hg, Prod.mk.injEq, Except.ok.injEq] at hn
      exact ⟨_, hn.1.1.symm⟩

/-- Creating from a manifest is orderly if the name in it is a text or left open. -/
theorem orderly_manifest {kind other : Kind} {metadata body : List (String × Json)}
    (h : ∀ value, Json.field? metadata "name" = some value → ∃ text, value = .str text) :
    (Call.create kind (manifest other (.obj metadata) body)).Orderly := by
  intro generated name ns object after hd
  rw [draft_manifest] at hd
  rcases hn : Store.named generated metadata with ⟨outcome, after'⟩
  cases outcome with
  | error d => simp [hn, Except.map] at hd
  | ok named =>
    simp only [hn, Except.map, Prod.mk.injEq, Except.ok.injEq] at hd
    exact hd.1.1 ▸ text_of_named h hn

/-- The step that creates a part of a tenant. Bindings may exist already. -/
def createStep (part : Kind × Json) : Step :=
  Step.ofManifest part.1 part.2 (part.1 = Kind.roleBindings)

variable {ns username : String} {config : Config} {variant : Variant} {part : Kind × Json}

/-- The parts of a tenant in their order. -/
theorem manifests_eq (ns username : String) (config : Config) (variant : Variant) :
    manifests ns username config variant =
      [(Kind.namespaces, tenantNamespace ns), (Kind.serviceAccounts, serviceAccount ns),
        (Kind.roles, operatorRole ns)] ++
        (if variant = .extended then [(Kind.roles, userRole ns)] else []) ++
        (bindings ns username variant).map (Kind.roleBindings, ·) ++
        [(Kind.clusterRoles, clusterRole ns), (Kind.clusterRoleBindings, clusterRoleBinding ns),
          (Kind.deployments, operatorDeployment ns config),
          (Kind.developments, development ns config)] ++
        (if variant = .extended then [(Kind.users, users ns)] else []) := by
  unfold manifests inventory
  cases variant <;> simp only [reduceCtorEq, if_true, if_false, List.map_append, List.map_map] <;>
    rfl

/-- What may exist already are the bindings in the namespace. -/
theorem mayExist_of_mem {item : Item} (h : item ∈ inventory ns username config variant) :
    item.mayExist = decide (item.kind = Kind.roleBindings) := by
  unfold inventory at h
  simp only [List.mem_append, List.mem_map] at h
  rcases h with (((hfirst | huser) | ⟨binding, -, rfl⟩) | hlast) | husers
  · simp only [List.mem_cons, List.not_mem_nil, or_false] at hfirst
    rcases hfirst with rfl | rfl | rfl <;> rfl
  · split at huser
    · obtain rfl := List.mem_singleton.mp huser
      rfl
    · cases huser
  · rfl
  · simp only [List.mem_cons, List.not_mem_nil, or_false] at hlast
    rcases hlast with rfl | rfl | rfl | rfl <;> rfl
  · split at husers
    · obtain rfl := List.mem_singleton.mp husers
      rfl
    · cases husers

/-- The steps that make a tenant create its parts. -/
theorem provisionSteps_eq (ns username : String) (config : Config) (variant : Variant) :
    provisionSteps ns username config variant =
      (manifests ns username config variant).map createStep := by
  unfold provisionSteps manifests
  rw [List.map_map]
  refine List.map_congr_left fun item hitem ↦ ?_
  rw [mayExist_of_mem hitem]
  rfl

/-- A step that makes a tenant creates one of its parts. -/
theorem mem_provisionSteps {step : Step} :
    step ∈ provisionSteps ns username config variant ↔
      ∃ part ∈ manifests ns username config variant, createStep part = step := by
  rw [provisionSteps_eq]
  exact List.mem_map

/-- The shape of a part: its kind is the broker's own, and its metadata place it and give its name
or the stem of one. -/
inductive IsPart (ns : String) : Kind × Json → Prop
  | clusterWide {kind : Kind} (name : String) (body : List (String × Json))
      (hkind : kind.namespaced = false) (howned : Owns ns ⟨kind.name, none, .text name⟩) :
      IsPart ns (kind, manifest kind (namedOnly name) body)
  | named {kind : Kind} {metadata : List (String × Json)} (name : String)
      (body : List (String × Json)) (hkind : kind.namespaced = true)
      (hname : Json.field? metadata "name" = some (.str name))
      (hplace : Json.field? metadata "namespace" = some (.str ns)) (hne : name ≠ "") :
      IsPart ns (kind, manifest kind (.obj metadata) body)
  | generated {kind : Kind} (stem : String) (body : List (String × Json))
      (hkind : kind.namespaced = true) : IsPart ns (kind, manifest kind (generatedIn stem ns) body)

/-- A tenant of the extended variant has all parts that one of any variant has. -/
theorem mem_extended (h : part ∈ manifests ns username config variant) :
    part ∈ manifests ns username config .extended := by
  cases variant with
  | extended => exact h
  | standard =>
    simp only [manifests_eq, bindings, reduceCtorEq, if_false, if_true, List.append_nil,
      List.map_append, List.mem_append] at h ⊢
    rcases h with (hfirst | hsystem | hbinding) | hlast
    · exact .inl (.inl (.inl (.inl hfirst)))
    · exact .inl (.inl (.inr (.inl (.inl hsystem))))
    · exact .inl (.inl (.inr (.inl (.inr hbinding))))
    · exact .inl (.inr hlast)

/-- The parts of a tenant have this shape. -/
theorem isPart_of_mem (h : part ∈ manifests ns username config variant) : IsPart ns part := by
  have h := mem_extended h
  simp only [manifests_eq, bindings, systemRoleBindings, if_true, List.map_append, List.map_cons,
    List.map_nil, List.mem_append, List.mem_cons, List.not_mem_nil, or_false, or_assoc] at h
  rcases h with rfl | rfl | rfl | rfl | rfl | rfl | rfl | rfl | rfl | rfl | rfl | rfl | rfl | rfl |
    rfl | rfl | rfl | rfl
  any_goals exact .clusterWide _ _ rfl (.inr (.inl rfl))
  any_goals exact .clusterWide _ _ rfl (.inr (.inr (.inl rfl)))
  any_goals exact .clusterWide _ _ rfl (.inr (.inr (.inr rfl)))
  any_goals exact .named _ _ rfl rfl rfl (by decide)
  all_goals exact .generated _ _ rfl

/-- A whole number of at most five digits has a text. -/
private theorem isWritable_small {value : Int} (h : value.natAbs < Nat.pow 10 5) :
    (Json.int value).isWritable = true := Json.isWritable_int h (by decide)

/-- The operator's container can be written: its numbers are small. -/
theorem isWritable_operatorContainer (config : Config) :
    (operatorContainer config).isWritable = true := by
  simp [operatorContainer, fieldVariable, fixedVariable, isWritable_small]

/-- The manifest of a part can be written. -/
theorem isWritable_of_mem (h : part ∈ manifests ns username config variant) :
    part.2.isWritable = true := by
  have h := mem_extended h
  simp only [manifests_eq, bindings, systemRoleBindings, if_true, List.map_append, List.map_cons,
    List.map_nil, List.mem_append, List.mem_cons, List.not_mem_nil, or_false, or_assoc] at h
  rcases h with rfl | rfl | rfl | rfl | rfl | rfl | rfl | rfl | rfl | rfl | rfl | rfl | rfl | rfl |
    rfl | rfl | rfl | rfl
  all_goals
    simp [tenantNamespace, serviceAccount, operatorRole, userRole, installRoleBinding,
      viewRoleBinding, editRoleBinding, userViewRoleBinding, userEditRoleBinding, userRoleBinding,
      clusterRole, clusterRoleBinding, operatorDeployment, development, users, manifest, namedIn,
      namedOnly, generatedIn, bindingMetadata, binding, rule, roleRef, accountSubject,
      operatorSubject, userSubject, groupSubject, operatorLabels, seedUser,
      isWritable_operatorContainer, isWritable_small]

/-! ## What is made of a part -/

/-- Where a part goes: in the namespace of its tenant, or nowhere if its kind is cluster-wide. -/
def place (ns : String) (kind : Kind) : Json := if kind.namespaced then .str ns else .null

/-- The key of a part under a name. -/
def partKey (ns : String) (kind : Kind) (name : String) : Key :=
  ⟨kind.name, if kind.namespaced then some (.text ns) else none, .text name⟩

/-- A manifest with a name filled into its metadata. -/
def withName (name : String) : Json → Json
  | .obj fields =>
    match Json.field? fields "metadata" with
    | some (.obj metadata) =>
      .obj (Json.setField fields "metadata" (.obj (Json.setField metadata "name" (.str name))))
    | _ => .obj fields
  | manifest => manifest

/-- What is stored of a part. It is the manifest as it is under the name that it gives, or, if the
manifest leaves the name open, the manifest with the stem of the name and a number filled in. -/
inductive Made (ns : String) (part : Kind × Json) : Key × Json → Prop
  | asGiven (name : String) (hname : Step.metadataField part.2 "name" = .str name) :
      Made ns part (partKey ns part.1 name, part.2)
  | numbered (stem : String) (number : Nat) (hopen : Step.metadataField part.2 "name" = .null)
      (hstem : Step.metadataField part.2 "generateName" = .str stem) :
      Made ns part (partKey ns part.1 (stem ++ Store.generatedSuffix number),
        withName (stem ++ Store.generatedSuffix number) part.2)

/-- A field of the metadata of a manifest. -/
theorem metadataField_manifest (kind : Kind) (metadata body : List (String × Json))
    (name : String) :
    Step.metadataField (manifest kind (.obj metadata) body) name =
      (Json.field? metadata name).getD .null := by
  cases metadata with
  | nil => rfl
  | cons f rest => rfl

/-- A part is addressed under its key. -/
theorem keyOf_place (ns name : String) (kind : Kind) :
    keyOf kind (.str name) (place ns kind) = .ok (some (partKey ns kind name)) := by
  unfold keyOf place partKey
  cases kind.namespaced with
  | false => rfl
  | true => rfl

private theorem ne_empty_of_owns (hns : ns ≠ "") {kind name : String}
    (h : Owns ns ⟨kind, none, .text name⟩) : name ≠ "" := by
  rcases h with hin | hkey | hkey | hkey
  · cases hin
  · simp only [namespaceKey, Key.mk.injEq, Name.text.injEq] at hkey
    exact hkey.2.2 ▸ hns
  · simp only [clusterRoleKey, Key.mk.injEq, Name.text.injEq] at hkey
    exact hkey.2.2 ▸ clusterScopedName_ne_empty ns
  · simp only [clusterRoleBindingKey, Key.mk.injEq, Name.text.injEq] at hkey
    exact hkey.2.2 ▸ clusterScopedName_ne_empty ns

/-- A part is drafted at its place, and the draft is what is made of it. -/
theorem IsPart.draft (h : IsPart ns part) (hns : ns ≠ "") (generated : Nat) :
    ∃ name object after,
      Store.draft generated part.1 part.2 =
        (.ok (.str name, place ns part.1, object), after) ∧
      Made ns part (partKey ns part.1 name, object) := by
  cases h with
  | @clusterWide kind name body hkind howned =>
    have hne := ne_empty_of_owns hns howned
    refine ⟨name, manifest kind (namedOnly name) body, generated, ?_,
      .asGiven name (metadataField_manifest _ _ _ _)⟩
    rw [namedOnly, draft_of_name rfl hne, place, hkind]
    rfl
  | @named kind metadata name body hkind hname hplace hne =>
    refine ⟨name, manifest kind (.obj metadata) body, generated, ?_, .asGiven name ?_⟩
    · rw [draft_of_name hname hne, place, hkind, if_pos rfl, if_pos rfl, hplace]
      rfl
    · rw [metadataField_manifest, hname]
      rfl
  | @generated kind stem body hkind =>
    refine ⟨stem ++ Store.generatedSuffix (generated + 1), _, generated + 1, ?_,
      .numbered stem (generated + 1) (metadataField_manifest _ _ _ _)
        (metadataField_manifest _ _ _ _)⟩
    rw [generatedIn, draft_manifest, place, hkind]
    rfl

/-- What is stored under a draft of a part is made of the part. -/
theorem IsPart.made_of_draft (h : IsPart ns part) (hns : ns ≠ "") {generated after : Nat}
    {name given object : Json} {key : Key}
    (hd : Store.draft generated part.1 part.2 = (.ok (name, given, object), after))
    (hk : keyOf part.1 name given = .ok (some key)) : Made ns part (key, object) := by
  obtain ⟨name', object', after', hd', hmade⟩ := h.draft hns generated
  have hsame := hd'.symm.trans hd
  simp only [Prod.mk.injEq, Except.ok.injEq] at hsame
  obtain ⟨⟨rfl, rfl, rfl⟩, rfl⟩ := hsame
  have hkey := (keyOf_place ns name' part.1).symm.trans hk
  rw [Except.ok.injEq, Option.some.injEq] at hkey
  exact hkey ▸ hmade

/-- What is made of a part belongs to the tenant. -/
theorem Made.owns {o : Key × Json} (hmade : Made ns part o) (h : IsPart ns part) :
    Owns ns o.1 := by
  have hin (hkind : part.1.namespaced = true) (name : String) :
      Owns ns (partKey ns part.1 name) := .inl (by simp [partKey, hkind])
  cases h with
  | @clusterWide kind name body hkind howned =>
    have hkey : partKey ns kind name = ⟨kind.name, none, .text name⟩ := by simp [partKey, hkind]
    cases hmade with
    | asGiven given hname =>
      rw [namedOnly, metadataField_manifest] at hname
      obtain rfl : name = given := Json.str.inj hname
      exact hkey ▸ howned
    | numbered stem number hopen =>
      rw [namedOnly, metadataField_manifest] at hopen
      cases hopen
  | named name body hkind => cases hmade <;> exact hin hkind _
  | generated stem body hkind => cases hmade <;> exact hin hkind _

/-- Creating something of the shape of a part is orderly. -/
theorem IsPart.orderly (h : IsPart ns part) : (Call.create part.1 part.2).Orderly := by
  cases h with
  | clusterWide name body =>
    exact orderly_manifest fun value hv ↦ ⟨name, by simpa [Json.field?, eq_comm] using hv⟩
  | named name body hkind hname =>
    exact orderly_manifest fun value hv ↦ ⟨name, Option.some.inj (hv.symm.trans hname)⟩
  | generated stem body => exact orderly_manifest fun value hv ↦ by simp [Json.field?] at hv

/-- Making a tenant is orderly. -/
theorem orderly_provisionSteps :
    ∀ step ∈ provisionSteps ns username config variant, step.Makes Call.Orderly := by
  intro step hstep
  obtain ⟨part, hpart, rfl⟩ := mem_provisionSteps.mp hstep
  intro manifest hm
  obtain rfl : part.2 = manifest := Option.some.inj hm
  exact (isPart_of_mem hpart).orderly

/-- Removing a tenant is orderly. -/
theorem orderly_deprovisionSteps (ns : String) :
    ∀ step ∈ deprovisionSteps ns, step.Makes Call.Orderly := by
  simp only [deprovisionSteps, recordKinds, List.map_cons, List.map_nil, List.cons_append,
    List.nil_append, List.forall_mem_cons, List.not_mem_nil, false_imp_iff, implies_true, and_true]
  refine ⟨⟨trivial, fun _ ↦ ?_⟩, ⟨trivial, fun _ ↦ ?_⟩, ?_, ?_, ?_⟩
  · exact Kind.eq_namespaces_of_name Kind.users (by decide)
  · exact Kind.eq_namespaces_of_name Kind.developments (by decide)
  · exact Kind.eq_namespaces_of_name Kind.clusterRoleBindings (by decide)
  · exact Kind.eq_namespaces_of_name Kind.clusterRoles (by decide)
  · exact Kind.eq_namespaces_of_name Kind.namespaces (by decide)

end TenantBroker.Tenant
