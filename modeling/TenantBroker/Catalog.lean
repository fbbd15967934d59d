import TenantBroker.Json.Shown

/-!
# The catalog

The catalog lists the services on offer, each with its plans. A plan says by a schema which
parameters an instance may be created with. A pair of ids finds a plan; the service is looked at
first. `SPEC_FULL.md`, section 4.
-/

namespace TenantBroker.Catalog

/-- A plan of a service, with the schemas of the parameters for an instance and for a binding. -/
structure Plan where
  id : String
  name : String
  description : String
  free : Bool
  instanceSchema : Json
  bindingSchema : Json

/-- A service and its plans. -/
structure Service where
  id : String
  name : String
  description : String
  bindable : Bool
  planUpdateable : Bool
  plans : List Plan

/-- A schema where the catalog keeps it. -/
def createParameters (schema : Json) : Json :=
  .obj [("create", .obj [("parameters", schema)])]

/-- A plan as a record. -/
def Plan.toJson (plan : Plan) : Json :=
  .obj [
    ("id", .str plan.id),
    ("name", .str plan.name),
    ("description", .str plan.description),
    ("free", .bool plan.free),
    ("schemas", .obj [
      ("service_instance", createParameters plan.instanceSchema),
      ("service_binding", createParameters plan.bindingSchema)])]

/-- A service as a record. -/
def Service.toJson (service : Service) : Json :=
  .obj [
    ("id", .str service.id),
    ("name", .str service.name),
    ("description", .str service.description),
    ("bindable", .bool service.bindable),
    ("plan_updateable", .bool service.planUpdateable),
    ("metadata", .obj [("serviceName", .str service.name), ("serviceType", .str service.name)]),
    ("plans", .arr (service.plans.map Plan.toJson))]

/-- An instance takes any record as its parameters. -/
def anyRecordSchema : Json :=
  .obj [("$schema", .str "http://json-schema.org/draft-07/schema#"), ("type", .str "object")]

/-- The plan on offer. -/
def defaultPlan : Plan where
  id := "default-rhpam"
  name := "default-rhpam"
  description := "default rhpam plan"
  free := true
  instanceSchema := anyRecordSchema
  bindingSchema := .obj []

/-- The services on offer. -/
def services : List Service := [{
  id := "rhpam-service-id"
  name := "rhpam-dev"
  description := "rhpam-dev"
  bindable := false
  planUpdateable := false
  plans := [defaultPlan] }]

/-- The services on offer, as a record. -/
def listing : Json := .arr (services.map Service.toJson)

/-- Why a pair of ids finds no plan. -/
inductive OfferFault where
  | unknownService (service : Json)
  | unknownPlan (service plan : Json)

/-- The wording of a fault. -/
def OfferFault.message : OfferFault → String
  | .unknownService service => "service " ++ service.quoted ++ " is not in the catalog"
  | .unknownPlan service plan =>
    "plan " ++ plan.quoted ++ " is not offered by service " ++ service.quoted

/-- Whether a value is an id. -/
def isId (value : Json) (id : String) : Bool := value.text? = some id

/-- The plan that a service and a plan id name. Anything may stand for an id. -/
def findPlan (service plan : Json) : Except OfferFault Plan :=
  match services.find? fun s ↦ isId service s.id with
  | none => .error (.unknownService service)
  | some s =>
    match s.plans.find? fun p ↦ isId plan p.id with
    | none => .error (.unknownPlan service plan)
    | some p => .ok p

end TenantBroker.Catalog
