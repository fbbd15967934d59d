import TenantBroker.Pipeline.Step
import TenantBroker.Tenant.Manifest

/-!
# The steps that make and remove a tenant

Dependencies are encoded by position. The namespace comes before everything in it, the account and
the roles before the bindings that name them, and the operator's deployment before the records that
it works on. A tenant is removed in the opposite direction: the records one by one, then the
binding and the role that live outside the namespace, and the namespace last. Only bindings in the
namespace may exist already. `SPEC_FULL.md`, section 0; the variants of the list, section 1.
-/

namespace TenantBroker.Tenant

open Cluster (Kind)
open Pipeline (Step)

/-- The bindings in a tenant's namespace. -/
def bindings (ns username : String) (variant : Variant) : List Json :=
  systemRoleBindings ns ++
    [installRoleBinding ns, viewRoleBinding ns, editRoleBinding ns,
      userViewRoleBinding ns username] ++
    match variant with
    | .standard => []
    | .extended => [userEditRoleBinding ns username, userRoleBinding ns username]

/-- Something that is created for a tenant: an object of a kind, from a manifest, and whether it may
exist already. -/
structure Item where
  kind : Kind
  manifest : Json
  mayExist : Bool := false

/-- Everything that a tenant consists of, in the order of creation. -/
def inventory (ns username : String) (config : Config) (variant : Variant) : List Item :=
  let extra (items : List Item) := if variant = .extended then items else []
  [{ kind := Kind.namespaces, manifest := tenantNamespace ns },
    { kind := Kind.serviceAccounts, manifest := serviceAccount ns },
    { kind := Kind.roles, manifest := operatorRole ns }] ++
    extra [{ kind := Kind.roles, manifest := userRole ns }] ++
    (bindings ns username variant).map
      (fun binding ↦ { kind := Kind.roleBindings, manifest := binding, mayExist := true }) ++
    [{ kind := Kind.clusterRoles, manifest := clusterRole ns },
      { kind := Kind.clusterRoleBindings, manifest := clusterRoleBinding ns },
      { kind := Kind.deployments, manifest := operatorDeployment ns config },
      { kind := Kind.developments, manifest := development ns config }] ++
    extra [{ kind := Kind.users, manifest := users ns }]

/-- The kinds and manifests of everything that a tenant consists of. -/
def manifests (ns username : String) (config : Config) (variant : Variant) : List (Kind × Json) :=
  (inventory ns username config variant).map fun item ↦ (item.kind, item.manifest)

/-- The steps that make a tenant. -/
def provisionSteps (ns username : String) (config : Config) (variant : Variant) : List Step :=
  (inventory ns username config variant).map fun item ↦
    Step.ofManifest item.kind item.manifest item.mayExist

/-- The kinds of the tenants' own records, in the order of deletion. -/
def recordKinds : List Kind := [Kind.users, Kind.developments]

/-- The steps that remove a tenant. -/
def deprovisionSteps (ns : String) : List Step :=
  recordKinds.map (Step.deleteAll · (.str ns)) ++
    [Step.delete Kind.clusterRoleBindings (.str (clusterScopedName ns)) .null,
      Step.delete Kind.clusterRoles (.str (clusterScopedName ns)) .null,
      Step.delete Kind.namespaces (.str ns) .null]

end TenantBroker.Tenant
