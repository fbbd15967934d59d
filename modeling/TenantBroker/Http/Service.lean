import TenantBroker.Broker.Operation
import TenantBroker.Http.Route
import TenantBroker.Http.Validation
import TenantBroker.Network.Host

/-!
# The broker over HTTP

A request is validated before anything else, then the caller has to accept an answer before the
work is done, then the identity is read, and only then the broker is called. A rejected request is
the caller's fault, a record that is not there is not found, and all other failures are the
broker's. The routes are in `SPEC_FULL.md`, section 4, and the status of a failure in section 3.
-/

namespace TenantBroker.Http

open Broker (Failure)
open Cluster (Program)

/-- The response to a failure of the broker. -/
def Response.ofFailure : Failure → Response
  | .rejected why => .failure 400 "BadRequest" why.message
  | .asyncRequired =>
    .failure 422 "AsyncRequired" (Failure.asyncRequired.message?.getD "")
  | .defect _ => .broken
  | .missing instanceId =>
    .failure 404 "NotFound" ((Failure.missing instanceId).message?.getD "")
  | f => .failure 500 "InternalServerError" (f.message?.getD "")

/-- The response to the outcome of an operation. -/
def Response.ofOutcome {α : Type} (status : Nat) (value : α → Json) : Except Failure α → Response
  | .ok v => .ofJson status (value v)
  | .error f => .ofFailure f

/-- The caller has to accept an answer before the work is done. -/
def requireIncomplete (accepted : Bool) : Except Failure Unit :=
  if accepted then .ok () else .error .asyncRequired

/-- The user on whose behalf a request is made. -/
def requestUser (r : Request) : Except Failure String :=
  (Identity.read (r.header? Identity.headerName)).mapError fun fault ↦ .rejected (.identity fault)

/-- A query parameter as an id: null if it is not given. -/
def idParameter (r : Request) (name : String) : Json := (r.parameter? name).elim .null .str

/-- What a validated request for an instance asks for, once the caller may have it. -/
def gatedProvision (config : Config) (instanceId : String) (r : Request) (accepted : Bool)
    (wanted : ProvisionRequest) : Broker.Action Broker.Provisioned :=
  Broker.orFail (requireIncomplete accepted) fun _ ↦
    Broker.orFail (requestUser r) fun username ↦
      Broker.provision config instanceId username (.str wanted.service) (.str wanted.plan)
        wanted.parameters

/-- The issues of a part of a request. -/
def issuesOf {α : Type} : Except (List Issue) α → List Issue
  | .ok _ => []
  | .error issues => issues

/-- What has been read from a request for an instance: whether an early answer is accepted, and
what is wanted. Issues of both are collected. -/
def readProvision (r : Request) (body : Option Json) :
    Except (List Issue) (Bool × ProvisionRequest) :=
  match (acceptsIncomplete r).mapError ([·]), checkBody body with
  | .ok accepted, .ok wanted => .ok (accepted, wanted)
  | accepted, wanted => .error (issuesOf accepted ++ issuesOf wanted)

/-- The instance as a caller is told about it. -/
def provisionedJson (p : Broker.Provisioned) : Json :=
  .obj [("dashboard_url", .str p.dashboardUrl), ("operation", .str p.operation)]

/-- Provisions an instance. -/
def provision (config : Config) (instanceId : String) (r : Request) : Program Response :=
  match readBody r with
  | .error (.malformed reason index) =>
    .done (issuesResponse [⟨.malformed reason, .character index, .obj []⟩])
  | .error .unreadable => .done (.detail 400 (.str "There was an error parsing the body"))
  | .error (.undecodable fault) => .done (.failure 500 "InternalServerError" fault.message)
  | .ok body =>
    match readProvision r body with
    | .error issues => .done (issuesResponse issues)
    | .ok (accepted, wanted) =>
      (gatedProvision config instanceId r accepted wanted).map (.ofOutcome 202 provisionedJson)

/-- The plan is looked up if at least one id is given. -/
def checkOffer (service plan : Json) : Except Failure Unit :=
  match service, plan with
  | .null, .null => .ok ()
  | _, _ =>
    match Catalog.findPlan service plan with
    | .ok _ => .ok ()
    | .error fault => .error (.rejected (.offer fault))

/-- The removal that a validated request asks for, once the caller may have it. -/
def gatedDeprovision (config : Config) (instanceId : String) (r : Request) (accepted : Bool) :
    Broker.Action String :=
  Broker.orFail (requireIncomplete accepted) fun _ ↦
    Broker.orFail (checkOffer (idParameter r "service_id") (idParameter r "plan_id")) fun _ ↦
      Broker.deprovision config instanceId

/-- Deprovisions an instance. -/
def deprovision (config : Config) (instanceId : String) (r : Request) : Program Response :=
  match acceptsIncomplete r with
  | .error issue => .done (issuesResponse [issue])
  | .ok accepted =>
    (gatedDeprovision config instanceId r accepted).map
      (.ofOutcome 202 fun operation ↦ .obj [("operation", .str operation)])

/-- A status as a caller is told about it. -/
def statusJson (s : Broker.Status) : Json :=
  .obj [("state", .str s.state.name), ("description", .str s.description)]

/-- Answers what has become of an operation. -/
def lastOperation (config : Config) (instanceId : String) (r : Request) : Program Response :=
  (Broker.lastOperation config instanceId ((r.parameter? "operation").getD "")).map
    (.ofOutcome 200 statusJson)

/-- The host that a request is for; the address of the server if it names none. -/
def Request.host (r : Request) : String :=
  ((r.header? "host").filter Network.isHost).getD r.server

/-- The location of another path on the same host, with the same query. -/
def redirectLocation (r : Request) (path : String) : String :=
  "http://" ++ r.host ++ String.ofList (Text.Percent.quotePath path.toList) ++
    if r.query = "" then "" else "?" ++ r.query

/-- Answers a request on a route. The documentation itself is served elsewhere. -/
def answer (config : Config) (r : Request) : Route → Program Response
  | .page => .done ⟨200, .text "", none⟩
  | .root => .done (.redirect "/docs")
  | .catalog => .done (.ofJson 200 (.obj [("services", Catalog.listing)]))
  | .provision instanceId => provision config instanceId r
  | .deprovision instanceId => deprovision config instanceId r
  | .lastOperation instanceId => lastOperation config instanceId r

/-- Answers a request. -/
def respond (config : Config) (r : Request) : Program Response :=
  match destination r.method r.path with
  | .route route => answer config r route
  | .wrongMethod => .done (.detail 405 (.str "Method Not Allowed"))
  | .redirect path => .done (.redirect (redirectLocation r path))
  | .nowhere => .done (.detail 404 (.str "Not Found"))

end TenantBroker.Http
