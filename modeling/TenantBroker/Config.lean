import TenantBroker.Number.Reading
import TenantBroker.Number.Shortest
import TenantBroker.Text.Case
import TenantBroker.Text.Quoted

/-!
# Settings

The broker takes its settings from environment variables. What is unset has a default; a number is
also unset if its text is blank. A number out of range, a text that is no number, a variant that is
not known and an empty prefix are refused, in the order in which the settings are read. A time that
is no number in the sense of NaN is neither too small nor too large, so it passes. The variables and
their defaults are in `SPEC_FULL.md`, section 1.
-/

namespace TenantBroker

/-- How much a tenant gets: the extended variant also lets the user manage the records of users. -/
inductive Variant where
  | standard
  | extended
  deriving DecidableEq

/-- The name of a variant. -/
def Variant.name : Variant → String
  | .standard => "standard"
  | .extended => "extended"

/-- The variants in the order in which messages name them. -/
def Variant.all : List Variant := [.standard, .extended]

/-- The variant of a name. -/
def Variant.ofName? (name : String) : Option Variant := Variant.all.find? (·.name = name)

/-- The environment: variables and their values. -/
abbrev Environment := List (String × String)

/-- The value of a variable. -/
def Environment.get? (env : Environment) (name : String) : Option String :=
  (env.find? (·.1 = name)).map (·.2)

/-- The settings of the broker. -/
structure Config where
  namespacePrefix : String := "rhpam"
  routeSuffix : Option String := none
  ssoNamespace : String := ""
  ssoSecret : String := ""
  operatorImage : String := "quay.io/integreatly/rhpam-dev-operator:v0.0.2"
  variant : Variant := .standard
  program : String := "kubectl"
  stepTimeout : Binary64 := .ofNat 60
  retryAttempts : Nat := 3
  retryBackoff : Binary64 := .ofNat 1
  deriving DecidableEq

/-- Why an environment gives no settings. -/
inductive ConfigFault where
  | unknownVariant (name : String)
  | noPrefix
  | notInteger (setting value : String)
  | belowOne (setting : String) (value : Int)
  | notNumber (setting value : String)
  | notPositive (setting : String) (value : Binary64)
  | negative (setting : String) (value : Binary64)
  deriving DecidableEq

namespace Config

def variantVariable : String := "RHPAM_BROKER_PIPELINE_VARIANT"
def prefixVariable : String := "RHPAM_BROKER_NAMESPACE_PREFIX"
def routeSuffixVariable : String := "ROUTE_SUFFIX"
def ssoNamespaceVariable : String := "SSO_NAMESPACE"
def ssoSecretVariable : String := "SSO_ADMIN_CREDENTIALS_SECRET"
def imageVariable : String := "RHPAM_OPERATOR_IMAGE"
def programVariable : String := "RHPAM_BROKER_KUBECTL"
def timeoutVariable : String := "RHPAM_BROKER_STEP_TIMEOUT"
def attemptsVariable : String := "RHPAM_BROKER_RETRY_ATTEMPTS"
def backoffVariable : String := "RHPAM_BROKER_RETRY_BACKOFF"

/-- Every variable that is read. -/
def variableNames : List String := [
  variantVariable, prefixVariable, routeSuffixVariable, ssoNamespaceVariable, ssoSecretVariable,
  imageVariable, programVariable, timeoutVariable, attemptsVariable, backoffVariable]

end Config

/-- The wording of a fault. -/
def ConfigFault.message : ConfigFault → String
  | .unknownVariant name =>
    Config.variantVariable ++ " must be one of " ++
      ", ".intercalate (Variant.all.map Variant.name) ++ ", got " ++ Text.quoted name
  | .noPrefix => Config.prefixVariable ++ " must not be empty"
  | .notInteger setting value => setting ++ " must be an integer, got " ++ Text.quoted value
  | .belowOne setting value => setting ++ " must be at least 1, got " ++ toString value
  | .notNumber setting value => setting ++ " must be a number, got " ++ Text.quoted value
  | .notPositive setting value => setting ++ " must be greater than 0, got " ++ value.text
  | .negative setting value => setting ++ " must not be negative, got " ++ value.text

namespace Config

/-- The text of a number in the environment: none if it is unset or blank. -/
def numberText? (env : Environment) (setting : String) : Option String :=
  (env.get? setting).filter fun value ↦ Text.trim value != ""

/-- A whole number of at least one. -/
def readCount (env : Environment) (setting : String) (default : Nat) : Except ConfigFault Nat :=
  match numberText? env setting with
  | none => .ok default
  | some value =>
    match Number.readInt? value with
    | none => .error (.notInteger setting value)
    | some n => if n < 1 then .error (.belowOne setting n) else .ok n.toNat

/-- A floating-point number. -/
def readReal (env : Environment) (setting : String) (default : Binary64) :
    Except ConfigFault Binary64 :=
  match numberText? env setting with
  | none => .ok default
  | some value =>
    match Number.readReal? value with
    | none => .error (.notNumber setting value)
    | some x => .ok x

/-- A number that is not zero or less. -/
def readPositive (env : Environment) (setting : String) (default : Binary64) :
    Except ConfigFault Binary64 := do
  let x ← readReal env setting default
  if x.isNonpositive then throw (.notPositive setting x)
  pure x

/-- A number that is not less than zero. -/
def readNonnegative (env : Environment) (setting : String) (default : Binary64) :
    Except ConfigFault Binary64 := do
  let x ← readReal env setting default
  if x.isNegative then throw (.negative setting x)
  pure x

/-- The variant, in any letter case and with blanks around it. -/
def readVariant (env : Environment) : Except ConfigFault Variant :=
  match env.get? variantVariable with
  | none => .ok .standard
  | some value =>
    let name := Text.lower (Text.trim value)
    match Variant.ofName? name with
    | none => .error (.unknownVariant name)
    | some variant => .ok variant

/-- The prefix of namespaces, without blanks around it. -/
def readPrefix (env : Environment) : Except ConfigFault String :=
  let stem := Text.trim ((env.get? prefixVariable).getD ({} : Config).namespacePrefix)
  if stem = "" then .error .noPrefix else .ok stem

/-- The settings that an environment gives. -/
def ofEnvironment (env : Environment) : Except ConfigFault Config := do
  let defaults : Config := {}
  let variant ← readVariant env
  let namespacePrefix ← readPrefix env
  let stepTimeout ← readPositive env timeoutVariable defaults.stepTimeout
  let retryAttempts ← readCount env attemptsVariable defaults.retryAttempts
  let retryBackoff ← readNonnegative env backoffVariable defaults.retryBackoff
  pure {
    namespacePrefix
    routeSuffix := env.get? routeSuffixVariable
    ssoNamespace := (env.get? ssoNamespaceVariable).getD defaults.ssoNamespace
    ssoSecret := (env.get? ssoSecretVariable).getD defaults.ssoSecret
    operatorImage := (env.get? imageVariable).getD defaults.operatorImage
    variant
    program := (env.get? programVariable).getD defaults.program
    stepTimeout
    retryAttempts
    retryBackoff }

end Config

end TenantBroker
