/-!
# Kinds of resource

A kind addresses one type of resource on the cluster by its API version and plural. Objects of a
namespaced kind live in a namespace, all others are cluster-wide. A custom kind is not built into
the cluster; its objects are handled as untyped records.
-/

namespace TenantBroker.Cluster

/-- A type of resource. -/
structure Kind where
  apiVersion : String
  name : String
  plural : String
  namespaced : Bool := true
  custom : Bool := false
  deriving DecidableEq

namespace Kind

/-- The part of the API version before its last slash; empty if it has none. -/
def group (kind : Kind) : String :=
  String.ofList ((kind.apiVersion.toList.reverse.dropWhile (· ≠ '/')).drop 1).reverse

/-- The part of the API version after its last slash. -/
def version (kind : Kind) : String :=
  String.ofList (kind.apiVersion.toList.reverse.takeWhile (· ≠ '/')).reverse

/-- The name that resolves to this kind alone: the plural, qualified unless the group is empty. -/
def resource (kind : Kind) : String :=
  if kind.group = "" then kind.plural else kind.plural ++ "." ++ kind.version ++ "." ++ kind.group

/-- The API group of access rules. -/
def accessGroup : String := "rbac.authorization.k8s.io"

/-- The API version of access rules. -/
def accessVersion : String := accessGroup ++ "/v1"

/-- The API group of the tenants' own records. -/
def tenantGroup : String := "rhpam.integreatly.org"

/-- The API version of the tenants' own records. -/
def tenantVersion : String := tenantGroup ++ "/v1alpha1"

def namespaces : Kind := ⟨"v1", "Namespace", "namespaces", false, false⟩
def serviceAccounts : Kind := ⟨"v1", "ServiceAccount", "serviceaccounts", true, false⟩
def roles : Kind := ⟨accessVersion, "Role", "roles", true, false⟩
def roleBindings : Kind := ⟨accessVersion, "RoleBinding", "rolebindings", true, false⟩
def clusterRoles : Kind := ⟨accessVersion, "ClusterRole", "clusterroles", false, false⟩

def clusterRoleBindings : Kind :=
  ⟨accessVersion, "ClusterRoleBinding", "clusterrolebindings", false, false⟩

def deployments : Kind := ⟨"apps/v1", "Deployment", "deployments", true, false⟩

/-- The record that an operator turns into a development environment. -/
def developments : Kind := ⟨tenantVersion, "RhpamDev", "rhpamdevs", true, true⟩

/-- The record of the users of a development environment. -/
def users : Kind := ⟨tenantVersion, "RhpamUser", "rhpamusers", true, true⟩

/-- Every kind that the broker handles. -/
def all : List Kind :=
  [namespaces, serviceAccounts, roles, roleBindings, clusterRoles, clusterRoleBindings, deployments,
    developments, users]

end Kind

end TenantBroker.Cluster
