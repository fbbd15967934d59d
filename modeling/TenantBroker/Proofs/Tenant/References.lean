import TenantBroker.Proofs.Tenant.Parts

/-!
# What the parts of a tenant name

Manifests name other objects: a binding the role that it grants and the subjects that it grants it
to, and a deployment the account that it runs under. What a manifest names can be read off it, and
so can the object that it describes. Whatever a part of a tenant names of the tenant's own objects
is described by a part before it, so nothing is made before what it rests on.
-/

namespace TenantBroker

/-! ## Paths into values -/

/-- The value that a path of fields leads to. -/
def Json.at? : Json → List String → Option Json
  | value, [] => some value
  | .obj fields, name :: path => (field? fields name).bind fun value ↦ value.at? path
  | _, _ :: _ => none

/-- The items of the list that a field holds; none where there is no list. -/
def Json.itemsAt (value : Json) (name : String) : List Json :=
  match value.at? [name] with
  | some (.arr items) => items
  | _ => []

namespace Tenant

open Cluster (Kind)

/-! ## What manifests describe and name -/

/-- What an object is known by: its kind, its namespace unless it is cluster-wide, and its name. -/
structure Target where
  kind : Option Json
  ns : Option Json
  name : Option Json

/-- The object that a manifest describes. -/
def described (m : Json) : Target :=
  ⟨m.at? ["kind"], m.at? ["metadata", "namespace"], m.at? ["metadata", "name"]⟩

/-- The role that a binding grants: one of its own namespace, or a cluster-wide one. -/
def grantedRoles (m : Json) : List Target :=
  match m.at? ["roleRef"] with
  | none => []
  | some role =>
    let isLocal := (role.at? ["kind"]).bind Json.text? = some Kind.roles.name
    [⟨role.at? ["kind"], if isLocal then m.at? ["metadata", "namespace"] else none,
      role.at? ["name"]⟩]

/-- A subject of a binding. -/
def subjectTarget (subject : Json) : Target :=
  ⟨subject.at? ["kind"], subject.at? ["namespace"], subject.at? ["name"]⟩

/-- The account that a deployment runs under, which is one of its own namespace. -/
def podAccounts (m : Json) : List Target :=
  match m.at? ["spec", "template", "spec", "serviceAccountName"] with
  | none => []
  | some name => [⟨some (.str Kind.serviceAccounts.name), m.at? ["metadata", "namespace"], name⟩]

/-- The objects that a manifest names. -/
def targets (m : Json) : List Target :=
  grantedRoles m ++ (m.itemsAt "subjects").map subjectTarget ++ podAccounts m

/-- The objects that only the tenant itself can provide: roles of a namespace, its cluster-wide role
and the account of its operator. What else manifests name belongs to the platform. -/
def IsOwn (ns : String) (target : Target) : Prop :=
  target.kind = some (.str Kind.roles.name) ∨
    target.kind = some (.str Kind.clusterRoles.name) ∧
      target.name = some (.str (clusterScopedName ns)) ∨
    target.kind = some (.str Kind.serviceAccounts.name) ∧ target.name = some (.str operatorName)

/-- Whatever a manifest names of the tenant's own objects is among some objects. -/
def Rests (ns : String) (given : List Target) (m : Json) : Prop :=
  ∀ target ∈ targets m, IsOwn ns target → target ∈ given

/-- Each of some manifests rests on some objects and those that the manifests before it describe. -/
def Founded (ns : String) : List Target → List Json → Prop
  | _, [] => True
  | given, m :: rest => Rests ns given m ∧ Founded ns (given ++ [described m]) rest

variable {ns username : String} {config : Config} {variant : Variant} {given : List Target}
  {ms others : List Json} {m : Json}

/-- Manifests one after the other are founded if the second ones are on what the first ones
describe. -/
theorem founded_append : Founded ns given (ms ++ others) ↔
    Founded ns given ms ∧ Founded ns (given ++ ms.map described) others := by
  induction ms generalizing given with
  | nil => simp [Founded]
  | cons m rest ih =>
    rw [List.cons_append, Founded, Founded, ih, List.map_cons, List.append_assoc,
      List.singleton_append, and_assoc]

/-- In founded manifests each one rests on what is given and what is described before it. -/
theorem Founded.rests {before after : List Json}
    (h : Founded ns given (before ++ m :: after)) : Rests ns (given ++ before.map described) m :=
  (founded_append.mp h).2.1

/-- Manifests that rest on what is given are founded. -/
theorem founded_of_rests (h : ∀ m ∈ ms, Rests ns given m) : Founded ns given ms := by
  induction ms generalizing given with
  | nil => trivial
  | cons m rest ih =>
    refine ⟨h m List.mem_cons_self, ih fun other hother target htarget hown ↦ ?_⟩
    exact List.mem_append_left _ (h other (List.mem_cons_of_mem _ hother) target htarget hown)

/-! ## What the platform provides -/

/-- A cluster-wide role whose name does not begin with the operator's is not the tenant's own. -/
private theorem not_isOwn_role {name : String} (h : ¬ operatorName.toList <+: name.toList) :
    ¬ IsOwn ns ⟨some (.str Kind.clusterRoles.name), none, some (.str name)⟩ := by
  rintro (hkind | ⟨-, hname⟩ | ⟨hkind, -⟩)
  · exact absurd (Json.str.inj (Option.some.inj hkind)) (by decide)
  · refine h ⟨("-" ++ ns).toList, ?_⟩
    rw [Json.str.inj (Option.some.inj hname)]
    simp [clusterScopedName]
  · exact absurd (Json.str.inj (Option.some.inj hkind)) (by decide)

/-- A subject of another kind than the accounts is not the tenant's own. -/
private theorem not_isOwn_subject {kind : String} {place name : Option Json}
    (h : kind ∉ [Kind.roles.name, Kind.clusterRoles.name, Kind.serviceAccounts.name]) :
    ¬ IsOwn ns ⟨some (.str kind), place, name⟩ := by
  simp only [List.mem_cons, List.not_mem_nil, or_false, not_or] at h
  rintro (hkind | ⟨hkind, -⟩ | ⟨hkind, -⟩)
  · exact h.1 (Json.str.inj (Option.some.inj hkind))
  · exact h.2.1 (Json.str.inj (Option.some.inj hkind))
  · exact h.2.2 (Json.str.inj (Option.some.inj hkind))

/-- An account with another name than the operator's is not the tenant's own. -/
private theorem not_isOwn_account {name : String} {place : Option Json} (h : name ≠ operatorName) :
    ¬ IsOwn ns ⟨some (.str Kind.serviceAccounts.name), place, some (.str name)⟩ := by
  rintro (hkind | ⟨hkind, -⟩ | ⟨-, hname⟩)
  · exact absurd (Json.str.inj (Option.some.inj hkind)) (by decide)
  · exact absurd (Json.str.inj (Option.some.inj hkind)) (by decide)
  · exact h (Json.str.inj (Option.some.inj hname))

/-! ## The parts of a tenant -/

/-- The parts that name nothing, and which the bindings of the namespace rest on. -/
private def roots (ns : String) (variant : Variant) : List Json :=
  [tenantNamespace ns, serviceAccount ns, operatorRole ns] ++
    if variant = .extended then [userRole ns] else []

/-- The parts after the cluster-wide role. -/
private def crown (ns : String) (config : Config) (variant : Variant) : List Json :=
  [clusterRoleBinding ns, operatorDeployment ns config, development ns config] ++
    if variant = .extended then [users ns] else []

private theorem map_manifests (ns username : String) (config : Config) (variant : Variant) :
    (manifests ns username config variant).map (·.2) =
      roots ns variant ++ (bindings ns username variant ++
        ([clusterRole ns] ++ crown ns config variant)) := by
  cases variant with
  | standard => simp [manifests_eq, roots, crown, Function.comp_def]
  | extended => simp [manifests_eq, roots, crown, Function.comp_def]

/-- A manifest that names nothing rests on nothing. -/
private theorem rests_of_targets_nil (h : targets m = []) : Rests ns given m := by
  intro target htarget
  rw [h] at htarget
  cases htarget

/-- A manifest that names two objects rests on those of them that are the tenant's own. -/
private theorem rests_pair {first second : Target} (h : targets m = [first, second])
    (hfirst : IsOwn ns first → first ∈ given) (hsecond : IsOwn ns second → second ∈ given) :
    Rests ns given m := by
  intro target htarget hown
  rw [h] at htarget
  rcases List.mem_cons.mp htarget with rfl | htarget
  · exact hfirst hown
  · obtain rfl := List.mem_singleton.mp htarget
    exact hsecond hown

private theorem account_mem_roots (ns : String) (variant : Variant) :
    described (serviceAccount ns) ∈ (roots ns variant).map described := by
  simp [roots]

/-- The first parts name nothing. -/
private theorem rests_roots (ns : String) (variant : Variant) :
    ∀ m ∈ roots ns variant, Rests ns [] m := by
  unfold roots
  rw [List.forall_mem_append]
  refine ⟨?_, ?_⟩
  · simp only [List.forall_mem_cons, List.not_mem_nil, false_imp_iff, implies_true, and_true]
    exact ⟨rests_of_targets_nil rfl, rests_of_targets_nil rfl, rests_of_targets_nil rfl⟩
  · split
    · exact List.forall_mem_singleton.mpr (rests_of_targets_nil rfl)
    · exact List.forall_mem_nil _

/-- The bindings of the namespace rest on the roles and the account before them. -/
private theorem rests_bindings (ns username : String) (variant : Variant) :
    ∀ m ∈ bindings ns username variant, Rests ns ((roots ns variant).map described) m := by
  have haccount := account_mem_roots ns variant
  have hrole : described (operatorRole ns) ∈ (roots ns variant).map described := by simp [roots]
  unfold bindings systemRoleBindings
  simp only [List.forall_mem_append, List.forall_mem_cons, List.not_mem_nil, false_imp_iff,
    implies_true, and_true]
  refine ⟨⟨⟨?deployers, ?builders, ?pullers⟩, ?install, ?view, ?edit, ?userView⟩, ?extended⟩
  case deployers =>
    exact rests_pair rfl (absurd · (not_isOwn_role (by decide)))
      (absurd · (not_isOwn_account (by decide)))
  case builders =>
    exact rests_pair rfl (absurd · (not_isOwn_role (by decide)))
      (absurd · (not_isOwn_account (by decide)))
  case pullers =>
    exact rests_pair rfl (absurd · (not_isOwn_role (by decide)))
      (absurd · (not_isOwn_subject (by decide)))
  case install => exact rests_pair rfl (fun _ ↦ hrole) fun _ ↦ haccount
  case view => exact rests_pair rfl (absurd · (not_isOwn_role (by decide))) fun _ ↦ haccount
  case edit => exact rests_pair rfl (absurd · (not_isOwn_role (by decide))) fun _ ↦ haccount
  case userView =>
    exact rests_pair rfl (absurd · (not_isOwn_role (by decide)))
      (absurd · (not_isOwn_subject (by decide)))
  case extended =>
    cases variant with
    | standard => exact List.forall_mem_nil _
    | extended =>
      have huser : described (userRole ns) ∈ (roots ns .extended).map described := by simp [roots]
      simp only [List.forall_mem_cons, List.not_mem_nil, false_imp_iff, implies_true, and_true]
      constructor
      · exact rests_pair rfl (absurd · (not_isOwn_role (by decide)))
          (absurd · (not_isOwn_subject (by decide)))
      · exact rests_pair rfl (fun _ ↦ huser) (absurd · (not_isOwn_subject (by decide)))

/-- The parts after the cluster-wide role rest on it and on the account. -/
private theorem rests_crown (config : Config) (variant : Variant)
    (haccount : described (serviceAccount ns) ∈ given)
    (hrole : described (clusterRole ns) ∈ given) :
    ∀ m ∈ crown ns config variant, Rests ns given m := by
  unfold crown
  rw [List.forall_mem_append]
  constructor
  · simp only [List.forall_mem_cons, List.not_mem_nil, false_imp_iff, implies_true, and_true]
    refine ⟨rests_pair rfl (fun _ ↦ hrole) fun _ ↦ haccount, ?_, rests_of_targets_nil rfl⟩
    intro target htarget _
    have htargets : targets (operatorDeployment ns config) = [described (serviceAccount ns)] := rfl
    rw [htargets] at htarget
    exact List.mem_singleton.mp htarget ▸ haccount
  · split
    · exact List.forall_mem_singleton.mpr (rests_of_targets_nil rfl)
    · exact List.forall_mem_nil _

/-- The manifests of a tenant are founded: what each of them names of the tenant's own objects is
described by one before it. -/
theorem founded_manifests (ns username : String) (config : Config) (variant : Variant) :
    Founded ns [] ((manifests ns username config variant).map (·.2)) := by
  rw [map_manifests, founded_append, founded_append, founded_append, List.nil_append]
  refine ⟨founded_of_rests (rests_roots ns variant),
    founded_of_rests (rests_bindings ns username variant),
    founded_of_rests (List.forall_mem_singleton.mpr (rests_of_targets_nil rfl)),
    founded_of_rests (rests_crown config variant ?_ ?_)⟩
  · exact List.mem_append_left _ (List.mem_append_left _ (account_mem_roots ns variant))
  · exact List.mem_append_right _ (List.mem_singleton.mpr rfl)

end Tenant

end TenantBroker
