import TenantBroker.Cluster.Kind
import TenantBroker.Config
import TenantBroker.Json
import TenantBroker.Tenant.Naming

/-!
# Manifests of a tenant

Everything that a tenant consists of, as the records to be created: its namespace, the operator's
account, role, bindings and deployment, and the records that the operator turns into a development
environment. A manifest depends on the namespace, the name of the user and the settings alone. The
account, the role, the subjects of its bindings and the deployment share the operator's name.
-/

namespace TenantBroker.Tenant

open Cluster (Kind)

/-- The role of users who manage the user records of their tenant. -/
def userRoleName : String := "rhpam-dev-user"

/-- The stem of the names of development records. -/
def developmentStem : String := "rhpamdev-"

/-- The stem of the names of user records. -/
def userStem : String := "rhpamuser-"

/-- Every verb of an access rule. -/
def allVerbs : List String :=
  ["create", "delete", "deletecollection", "get", "list", "update", "watch"]

/-- The verbs that change nothing. -/
def readVerbs : List String := ["get", "list", "watch"]

/-- The resources of the cluster's core that the operator works with. -/
def coreResources : List String :=
  ["pods", "services", "endpoints", "persistentvolumeclaims", "configmaps", "secrets",
    "serviceaccounts"]

/-- The tenants' own records. -/
def tenantResources : List String :=
  ["rhpamdevs", "rhpamdevs/finalizers", "rhpamusers", "rhpamusers/finalizers"]

/-- An access rule. -/
def rule (group : String) (resources verbs : List String) : Json :=
  .obj [("apiGroups", Json.strings [group]), ("resources", Json.strings resources),
    ("verbs", Json.strings verbs)]

/-- The metadata of an object with a name in a namespace. -/
def namedIn (name ns : String) : Json := .obj [("name", .str name), ("namespace", .str ns)]

/-- The metadata of a cluster-wide object. -/
def namedOnly (name : String) : Json := .obj [("name", .str name)]

/-- The metadata of an object whose name the cluster makes up. -/
def generatedIn (stem ns : String) : Json :=
  .obj [("namespace", .str ns), ("generateName", .str stem)]

/-- A manifest of a kind. -/
def manifest (kind : Kind) (metadata : Json) (body : List (String × Json)) : Json :=
  .obj (("apiVersion", .str kind.apiVersion) :: ("kind", .str kind.name) ::
    ("metadata", metadata) :: body)

/-- The reference of a binding to the role that it grants. -/
def roleRef (kind : Kind) (name : String) : Json :=
  .obj [("apiGroup", .str Kind.accessGroup), ("kind", .str kind.name), ("name", .str name)]

/-- A service account as the subject of a binding. -/
def accountSubject (name ns : String) : Json :=
  .obj [("kind", .str Kind.serviceAccounts.name), ("name", .str name), ("namespace", .str ns)]

/-- The operator's account as the subject of a binding. -/
def operatorSubject (ns : String) : Json := accountSubject operatorName ns

/-- A user as the subject of a binding. -/
def userSubject (username : String) : Json :=
  .obj [("apiGroup", .str Kind.accessGroup), ("kind", .str "User"), ("name", .str username)]

/-- A group as the subject of a binding. -/
def groupSubject (name : String) : Json :=
  .obj [("apiGroup", .str Kind.accessGroup), ("kind", .str "Group"), ("name", .str name)]

/-- A binding in a namespace. -/
def binding (metadata role subject : Json) : Json :=
  manifest Kind.roleBindings metadata [("subjects", .arr [subject]), ("roleRef", role)]

/-- The metadata of a binding with a name. -/
def bindingMetadata (name ns : String) : Json := .obj [("namespace", .str ns), ("name", .str name)]

/-- The namespace itself. -/
def tenantNamespace (ns : String) : Json := manifest Kind.namespaces (namedOnly ns) []

/-- The operator's account. -/
def serviceAccount (ns : String) : Json :=
  manifest Kind.serviceAccounts (namedIn operatorName ns) []

/-- What the operator may do in the namespace. -/
def operatorRole (ns : String) : Json :=
  manifest Kind.roles (namedIn operatorName ns) [("rules", .arr [
    rule "" coreResources allVerbs,
    rule "" ["events"] ["get", "list"],
    rule "" ["namespaces"] ["get"],
    rule "apps" ["deployments"] allVerbs,
    rule "route.openshift.io" ["routes"] allVerbs,
    rule Kind.tenantGroup tenantResources allVerbs])]

/-- What the user may do with the tenant's records. -/
def userRole (ns : String) : Json :=
  manifest Kind.roles (namedIn userRoleName ns) [("rules", .arr [
    rule Kind.tenantGroup ["rhpamusers"] allVerbs,
    rule Kind.tenantGroup ["rhpamdevs"] readVerbs])]

/-- The bindings that every namespace of the platform carries; others may have created them. -/
def systemRoleBindings (ns : String) : List Json := [
  binding (bindingMetadata "system:deployers" ns) (roleRef Kind.clusterRoles "system:deployer")
    (accountSubject "deployer" ns),
  binding (bindingMetadata "system:image-builders" ns)
    (roleRef Kind.clusterRoles "system:image-builder") (accountSubject "builder" ns),
  binding (bindingMetadata "system:image-pullers" ns)
    (roleRef Kind.clusterRoles "system:image-puller")
    (groupSubject ("system:serviceaccounts:" ++ ns))]

/-- Grants the operator its role. -/
def installRoleBinding (ns : String) : Json :=
  binding (bindingMetadata (operatorName ++ ":install") ns) (roleRef Kind.roles operatorName)
    (operatorSubject ns)

/-- Lets the operator view the namespace. -/
def viewRoleBinding (ns : String) : Json :=
  binding (bindingMetadata (operatorName ++ ":view") ns) (roleRef Kind.clusterRoles "view")
    (operatorSubject ns)

/-- Lets the operator edit the namespace. -/
def editRoleBinding (ns : String) : Json :=
  binding (bindingMetadata (operatorName ++ ":edit") ns) (roleRef Kind.clusterRoles "edit")
    (operatorSubject ns)

/-- Lets the user view the namespace. -/
def userViewRoleBinding (ns username : String) : Json :=
  binding (generatedIn (operatorName ++ ":view-") ns) (roleRef Kind.clusterRoles "view")
    (userSubject username)

/-- Lets the user edit the namespace. -/
def userEditRoleBinding (ns username : String) : Json :=
  binding (generatedIn (operatorName ++ ":edit-") ns) (roleRef Kind.clusterRoles "edit")
    (userSubject username)

/-- Grants the user the role for the tenant's records. -/
def userRoleBinding (ns username : String) : Json :=
  binding (generatedIn (userRoleName ++ "-") ns) (roleRef Kind.roles userRoleName)
    (userSubject username)

/-- What the operator may read in the whole cluster. -/
def clusterRole (ns : String) : Json :=
  manifest Kind.clusterRoles (namedOnly (clusterScopedName ns)) [("rules", .arr [
    rule Kind.tenantGroup tenantResources readVerbs,
    rule "" coreResources readVerbs,
    rule "apps" ["deployments"] readVerbs])]

/-- Grants the operator its cluster-wide role. -/
def clusterRoleBinding (ns : String) : Json :=
  manifest Kind.clusterRoleBindings (namedOnly (clusterScopedName ns)) [
    ("roleRef", roleRef Kind.clusterRoles (clusterScopedName ns)),
    ("subjects", .arr [operatorSubject ns])]

/-- A variable of a container that is filled from a field of its pod. -/
def fieldVariable (name path : String) : Json :=
  .obj [("name", .str name),
    ("valueFrom", .obj [("fieldRef", .obj [("fieldPath", .str path)])])]

/-- A variable of a container with a fixed value. -/
def fixedVariable (name value : String) : Json := .obj [("name", .str name), ("value", .str value)]

/-- The container that the operator runs in. -/
def operatorContainer (config : Config) : Json :=
  .obj [
    ("name", .str operatorName),
    ("image", .str config.operatorImage),
    ("imagePullPolicy", .str "IfNotPresent"),
    ("command", Json.strings [operatorName]),
    ("env", .arr [
      fieldVariable "WATCH_NAMESPACE" "metadata.namespace",
      fieldVariable "POD_NAME" "metadata.name",
      fixedVariable "OPERATOR_NAME" operatorName,
      fixedVariable "SSO_NAMESPACE" config.ssoNamespace,
      fixedVariable "SSO_ADMIN_CREDENTIALS_SECRET" config.ssoSecret]),
    ("ports", .arr [.obj [("name", .str "metrics"), ("containerPort", Json.int 60000)]]),
    ("readinessProbe", .obj [
      ("exec", .obj [("command", Json.strings ["stat", "/tmp/operator-sdk-ready"])]),
      ("initialDelaySeconds", Json.int 4),
      ("periodSeconds", Json.int 10),
      ("failureThreshold", Json.int 1)])]

/-- The labels by which the operator's pod is found. -/
def operatorLabels : Json := .obj [("name", .str operatorName)]

/-- The operator's deployment. -/
def operatorDeployment (ns : String) (config : Config) : Json :=
  manifest Kind.deployments (namedIn operatorName ns) [("spec", .obj [
    ("replicas", Json.int 1),
    ("strategy", .obj [("type", .str "Recreate")]),
    ("selector", .obj [("matchLabels", operatorLabels)]),
    ("template", .obj [
      ("metadata", .obj [("labels", operatorLabels)]),
      ("spec", .obj [
        ("serviceAccountName", .str operatorName),
        ("containers", .arr [operatorContainer config])])])])]

/-- The record of the development environment. -/
def development (ns : String) (config : Config) : Json :=
  manifest Kind.developments (generatedIn developmentStem ns)
    [("spec", .obj [("domain", .str (config.routeSuffix.getD ""))])]

/-- A user of the development environment who is there from the start. -/
def seedUser (name group : String) : Json :=
  .obj [("username", .str name), ("password", .str "password"),
    ("roles", Json.strings ["user", "kie-server", group])]

/-- The record of the users of the development environment. -/
def users (ns : String) : Json :=
  manifest Kind.users (generatedIn userStem ns) [("spec", .obj [
    ("roles", .arr [namedOnly "group1", namedOnly "group2"]),
    ("users", .arr [seedUser "user1" "group1", seedUser "user2" "group2"])])]

end TenantBroker.Tenant
