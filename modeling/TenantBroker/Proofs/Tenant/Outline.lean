import Mathlib.Data.List.Forall2
import Mathlib.Data.List.Pairwise
import TenantBroker.Proofs.Tenant.Parts

/-!
# The outlines of parts

No two parts of a tenant can be stored under one key, whichever numbers the cluster fills in. What
is known of a key beforehand is an outline: the kind, and the whole name or the characters with
which it begins. The outlines are the same for all tenants, so they can be compared by computation.
-/

namespace TenantBroker.Tenant

open Cluster (Key Kind Name Store)
open Pipeline (Step)

/-- What is known of a key: its kind, and the characters with which its name begins, or of which it
consists. -/
structure Outline where
  kind : Kind
  stem : List Char
  whole : Bool
  deriving DecidableEq

namespace Outline

/-- A key as the outline says. -/
structure Fits (outline : Outline) (key : Key) (name : String) : Prop where
  kind : key.kind = outline.kind.name
  text : key.name = .text name
  stem : outline.stem <+: name.toList
  whole : outline.whole = true → name.toList = outline.stem

/-- Two outlines that leave room for one key. -/
def Clash (a b : Outline) : Prop :=
  a.kind.name = b.kind.name ∧ (a.stem <+: b.stem ∨ b.stem <+: a.stem) ∧
    (a.whole = true → b.stem <+: a.stem) ∧ (b.whole = true → a.stem <+: b.stem)

instance (a b : Outline) : Decidable (Clash a b) := inferInstanceAs (Decidable (_ ∧ _))

variable {a b : Outline}

/-- An outline clashes with itself. -/
theorem clash_refl (a : Outline) : Clash a a :=
  ⟨rfl, .inl List.prefix_rfl, fun _ ↦ List.prefix_rfl, fun _ ↦ List.prefix_rfl⟩

/-- Clashes are mutual. -/
theorem Clash.symm (h : Clash a b) : Clash b a := ⟨h.1.symm, h.2.1.symm, h.2.2.2, h.2.2.1⟩

/-- Outlines that fit one key clash. -/
theorem clash_of_fits {key : Key} {name other : String} (h : a.Fits key name)
    (h' : b.Fits key other) : Clash a b := by
  obtain rfl : name = other := Name.text.inj (h.text.symm.trans h'.text)
  refine ⟨h.kind.symm.trans h'.kind, List.prefix_or_prefix_of_prefix h.stem h'.stem, ?_, ?_⟩
  · intro hwhole
    exact h.whole hwhole ▸ h'.stem
  · intro hwhole
    exact h'.whole hwhole ▸ h.stem

end Outline

variable {ns username : String} {config : Config} {variant : Variant} {part other : Kind × Json}

/-- The outline of the key of a part. Nothing is said about the names of cluster-wide kinds, which
depend on the tenant. -/
def outline (part : Kind × Json) : Outline :=
  if part.1.namespaced then
    match Step.metadataField part.2 "name" with
    | .str name => ⟨part.1, name.toList, true⟩
    | _ => ⟨part.1, ((Step.metadataField part.2 "generateName").text?.getD "").toList, false⟩
  else ⟨part.1, [], false⟩

/-- The outline of a part has its kind. -/
@[simp] theorem kind_outline (part : Kind × Json) : (outline part).kind = part.1 := by
  unfold outline
  split
  · split <;> rfl
  · rfl

/-- What is made of a part is stored under a key that fits its outline. -/
theorem Made.fits {o : Key × Json} (h : Made ns part o) :
    ∃ name, (outline part).Fits o.1 name := by
  unfold outline
  cases hkind : part.1.namespaced with
  | false =>
    cases h with
    | asGiven name => exact ⟨name, rfl, rfl, List.nil_prefix, fun hwhole ↦ nomatch hwhole⟩
    | numbered stem number =>
      exact ⟨_, rfl, rfl, List.nil_prefix, fun hwhole ↦ nomatch hwhole⟩
  | true =>
    cases h with
    | asGiven name hname =>
      rw [hname]
      exact ⟨name, rfl, rfl, List.prefix_rfl, fun _ ↦ rfl⟩
    | numbered stem number hopen hstem =>
      rw [hopen, hstem]
      refine ⟨stem ++ Store.generatedSuffix number, rfl, rfl, ?_, fun hwhole ↦ nomatch hwhole⟩
      simp only [Json.text?, Option.getD_some, String.toList_append]
      exact List.prefix_append _ _

/-- Parts that cannot be stored under one key. -/
def Apart (part other : Kind × Json) : Prop := ¬ Outline.Clash (outline part) (outline other)

/-- What is made of parts that are apart is stored under two keys. -/
theorem Apart.ne_key {o o' : Key × Json} (h : Apart part other) (ho : Made ns part o)
    (ho' : Made ns other o') : o.1 ≠ o'.1 := by
  intro hkey
  obtain ⟨name, hfits⟩ := ho.fits
  obtain ⟨name', hfits'⟩ := ho'.fits
  rw [hkey] at hfits
  exact h (Outline.clash_of_fits hfits hfits')

variable {parts : List (Kind × Json)} {objects : List (Key × Json)}

/-- Among the objects made of some parts each is made of one of the parts. -/
theorem exists_part_of_mem (h : List.Forall₂ (Made ns) parts objects) {o : Key × Json}
    (ho : o ∈ objects) : ∃ part ∈ parts, Made ns part o := by
  induction h with
  | nil => cases ho
  | cons hmade _ ih =>
    rcases List.mem_cons.mp ho with rfl | hlater
    · exact ⟨_, List.mem_cons_self, hmade⟩
    · obtain ⟨part, hpart, hfound⟩ := ih hlater
      exact ⟨part, List.mem_cons_of_mem _ hpart, hfound⟩

/-- Of each of some parts there is an object among those made of them. -/
theorem exists_made_of_mem (h : List.Forall₂ (Made ns) parts objects) (hpart : part ∈ parts) :
    ∃ o ∈ objects, Made ns part o := by
  induction h with
  | nil => cases hpart
  | cons hmade _ ih =>
    rcases List.mem_cons.mp hpart with rfl | hlater
    · exact ⟨_, List.mem_cons_self, hmade⟩
    · obtain ⟨o, ho, hfound⟩ := ih hlater
      exact ⟨o, List.mem_cons_of_mem _ ho, hfound⟩

/-! ## The outlines of a tenant -/

private theorem outline_namedOnly (kind : Kind) (name : String) (body : List (String × Json)) :
    outline (kind, manifest kind (namedOnly name) body) =
      if kind.namespaced then ⟨kind, name.toList, true⟩ else ⟨kind, [], false⟩ := rfl

private theorem outline_namedIn (kind : Kind) (name ns : String) (body : List (String × Json)) :
    outline (kind, manifest kind (namedIn name ns) body) =
      if kind.namespaced then ⟨kind, name.toList, true⟩ else ⟨kind, [], false⟩ := rfl

private theorem outline_bound (kind : Kind) (name ns : String) (body : List (String × Json)) :
    outline (kind, manifest kind (bindingMetadata name ns) body) =
      if kind.namespaced then ⟨kind, name.toList, true⟩ else ⟨kind, [], false⟩ := rfl

private theorem outline_generated (kind : Kind) (stem ns : String) (body : List (String × Json)) :
    outline (kind, manifest kind (generatedIn stem ns) body) =
      if kind.namespaced then ⟨kind, stem.toList, false⟩ else ⟨kind, [], false⟩ := rfl

/-- The outlines of the parts do not depend on the tenant. -/
theorem outlines_eq (ns username : String) (config : Config) (variant : Variant) :
    (manifests ns username config variant).map outline =
      (manifests "" "" {} variant).map outline := by
  cases variant with
  | standard =>
    simp only [manifests_eq, bindings, systemRoleBindings, reduceCtorEq, if_false, List.map_cons,
      List.map_nil, List.append_nil, List.cons_append, List.nil_append, tenantNamespace,
      serviceAccount, operatorRole, binding, installRoleBinding, viewRoleBinding, editRoleBinding,
      userViewRoleBinding, clusterRole, clusterRoleBinding, operatorDeployment, development,
      outline_namedOnly, outline_namedIn, outline_bound, outline_generated]
    rfl
  | extended =>
    simp only [manifests_eq, bindings, systemRoleBindings, if_true, List.map_cons, List.map_nil,
      List.cons_append, List.nil_append, tenantNamespace, serviceAccount, operatorRole, userRole,
      binding, installRoleBinding, viewRoleBinding, editRoleBinding, userViewRoleBinding,
      userEditRoleBinding, userRoleBinding, clusterRole, clusterRoleBinding, operatorDeployment,
      development, users, outline_namedOnly, outline_namedIn, outline_bound, outline_generated]
    rfl

private theorem apart_outlines (variant : Variant) :
    ((manifests "" "" {} variant).map outline).Pairwise fun a b ↦ ¬ Outline.Clash a b := by
  cases variant with
  | standard => decide +kernel
  | extended => decide +kernel

/-- The parts of a tenant are apart. -/
theorem apart_manifests (ns username : String) (config : Config) (variant : Variant) :
    (manifests ns username config variant).Pairwise Apart := by
  have h := apart_outlines variant
  rw [← outlines_eq ns username config, List.pairwise_map] at h
  exact h

/-- The outlines of a variant. -/
private def outlines (variant : Variant) : List Outline := (manifests "" "" {} variant).map outline

private theorem outline_mem (h : part ∈ manifests ns username config variant) :
    outline part ∈ outlines variant := by
  unfold outlines
  rw [← outlines_eq ns username config variant]
  exact List.mem_map_of_mem h

/-- A part for one user has the outline of a part for another one, or the two are apart. -/
theorem outline_eq_or_apart {another : String} (h : part ∈ manifests ns username config variant)
    (h' : other ∈ manifests ns another config variant) :
    outline part = outline other ∨ Apart part other := by
  have hapart := (apart_outlines variant).imp (S := fun a b ↦ a = b ∨ ¬ Outline.Clash a b) .inr
  have hsymm : Std.Symm fun a b ↦ a = b ∨ ¬ Outline.Clash a b := by
    refine ⟨?_⟩
    rintro a b (rfl | h)
    · exact .inl rfl
    · exact .inr fun hclash ↦ h hclash.symm
  exact hapart.forall_of_forall (fun a _ ↦ .inl rfl) (outline_mem h) (outline_mem h')

/-- The kinds of the parts are the broker's own. -/
theorem kind_mem_all (h : part ∈ manifests ns username config variant) : part.1 ∈ Kind.all := by
  have hall : ∀ a ∈ outlines variant, a.kind ∈ Kind.all := by
    cases variant with
    | standard => decide +kernel
    | extended => decide +kernel
  rw [← kind_outline part]
  exact hall _ (outline_mem h)

/-- The kinds of which a tenant has one object at most. -/
def soleKinds : List Kind :=
  [Kind.namespaces, Kind.clusterRoles, Kind.clusterRoleBindings, Kind.users, Kind.developments]

/-- These kinds are the broker's own. -/
theorem mem_all_of_sole : ∀ kind ∈ soleKinds, kind ∈ Kind.all := by decide

/-- Parts of a kind of which there is one object at most have one outline. -/
theorem outline_eq_of_kind {another : String} (h : part ∈ manifests ns username config variant)
    (h' : other ∈ manifests ns another config variant) (hkind : part.1 = other.1)
    (hsole : part.1 ∈ soleKinds) : outline part = outline other := by
  have hall : ∀ a ∈ outlines variant, ∀ b ∈ outlines variant, a.kind = b.kind →
      a.kind ∈ soleKinds → a = b := by
    cases variant with
    | standard => decide +kernel
    | extended => decide +kernel
  refine hall _ (outline_mem h) _ (outline_mem h') ?_ ?_
  · rw [kind_outline, kind_outline, hkind]
  · rw [kind_outline]
    exact hsole

end TenantBroker.Tenant
