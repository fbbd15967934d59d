import TenantBroker.Text.Quoted

/-!
# Names of a tenant

An instance gets a namespace of its own, named by a prefix and the id of the instance. The name is
built from the id alone, so that later operations find the tenant again. It has to be a DNS label:
at most 63 lower-case letters, digits and hyphens, with no hyphen at either end. The shape of the
names is in `SPEC_FULL.md`, section 0.
-/

namespace TenantBroker.Tenant

/-- A lower-case ASCII letter or an ASCII digit. -/
def isLabelEnd (c : Char) : Bool := ('a' ≤ c && c ≤ 'z') || ('0' ≤ c && c ≤ '9')

/-- A character that may stand inside a label. -/
def isLabelInner (c : Char) : Bool := isLabelEnd c || c == '-'

/-- The greatest length of a label. -/
def maxLabelLength : Nat := 63

/-- What may follow the first character of a label: nothing, or inner characters and an end. -/
def isLabelTail : List Char → Bool
  | [] => true
  | [c] => isLabelEnd c
  | c :: rest => isLabelInner c && isLabelTail rest

/-- Whether characters are a label, whatever their number. -/
def isLabelShape : List Char → Bool
  | [] => false
  | c :: rest => isLabelEnd c && isLabelTail rest

/-- Whether a text is a DNS label. -/
def isDnsLabel (s : String) : Bool := s.length ≤ maxLabelLength && isLabelShape s.toList

/-- Why an instance has no namespace. -/
inductive NameFault where
  | noInstanceId
  | unusableInstanceId (instanceId : String)
  deriving DecidableEq

/-- The wording of a fault. -/
def NameFault.message : NameFault → String
  | .noInstanceId => "instance_id must not be empty"
  | .unusableInstanceId instanceId =>
    "instance_id " ++ Text.quoted instanceId ++ " does not yield a valid namespace name"

/-- A prefix and an instance id joined by a hyphen. -/
def joinedName (stem instanceId : String) : String := stem ++ "-" ++ instanceId

/-- The namespace of an instance under a prefix. -/
def namespaceFor (stem instanceId : String) : Except NameFault String :=
  if instanceId = "" then .error .noInstanceId
  else if isDnsLabel (joinedName stem instanceId) then .ok (joinedName stem instanceId)
  else .error (.unusableInstanceId instanceId)

/-- The host of a tenant's dashboard: without a route suffix it ends after the namespace. -/
def dashboardHost (ns : String) (routeSuffix : Option String) : String :=
  "rhpam-bc-" ++
    match routeSuffix with
    | none => ns
    | some suffix => ns ++ "." ++ suffix

/-- The address of a tenant's dashboard. -/
def dashboardUrl (ns : String) (routeSuffix : Option String) : String :=
  "https://" ++ dashboardHost ns routeSuffix

/-- The name of the operator, which its account, role, bindings and deployment share. -/
def operatorName : String := "rhpam-dev-operator"

/-- The name of the cluster-wide role of a tenant, and of its binding. -/
def clusterScopedName (ns : String) : String := operatorName ++ "-" ++ ns

end TenantBroker.Tenant
