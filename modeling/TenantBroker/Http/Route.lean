import TenantBroker.Http.Message

/-!
# Routes

A path leads to a page, the catalog, an instance, or the last operation of an instance. The id of
an instance is one segment of the path and is not empty. A path may end with one line break, which
counts only as part of an id. Each route answers some methods. A path that leads nowhere, but would
if it had a slash more or fewer at its end, is redirected.
-/

namespace TenantBroker.Http

/-- Where a path leads to. -/
inductive Route where
  /-- A page of documentation. -/
  | page
  | root
  | catalog
  | provision (instanceId : String)
  | deprovision (instanceId : String)
  | lastOperation (instanceId : String)
  deriving DecidableEq

/-- The methods that a route answers. -/
def Route.methods : Route → List String
  | .page => ["GET", "HEAD"]
  | .provision _ => ["PUT"]
  | .deprovision _ => ["DELETE"]
  | .root | .catalog | .lastOperation _ => ["GET"]

/-- The pages of documentation. -/
def pagePaths : List String := ["/openapi.json", "/docs", "/docs/oauth2-redirect", "/redoc"]

/-- The start of every path to an instance. -/
def instancesPath : String := "/v2/service_instances/"

/-- The end of a path to the last operation of an instance. -/
def lastOperationPath : String := "/last_operation"

/-- Whether a path is a fixed one, or it with a line break. -/
def isFixed (fixed path : String) : Bool := path = fixed || path = fixed ++ "\n"

/-- What follows some characters at the start of a path. -/
def afterStart? (start cs : List Char) : Option (List Char) :=
  if start.isPrefixOf cs then some (cs.drop start.length) else none

/-- Whether characters are one segment of a path. -/
def isSegment (cs : List Char) : Bool := !cs.isEmpty && !cs.contains '/'

/-- The routes that the rest of a path to an instance leads to. -/
def instanceRoutes (rest : List Char) : List Route :=
  if isSegment rest then
    [.provision (String.ofList rest), .deprovision (String.ofList rest)]
  else
    let id := rest.takeWhile (· ≠ '/')
    if isSegment id && isFixed lastOperationPath (String.ofList (rest.drop id.length)) then
      [.lastOperation (String.ofList id)]
    else []

/-- The routes that a path leads to. -/
def routes (path : String) : List Route :=
  if pagePaths.any (isFixed · path) then [.page]
  else if isFixed "/" path then [.root]
  else if isFixed "/v2/catalog" path then [.catalog]
  else
    match afterStart? instancesPath.toList path.toList with
    | some rest => instanceRoutes rest
    | none => []

/-- The path with a slash more or fewer at its end. -/
def otherEnding (path : String) : String :=
  let reversed := path.toList.reverse
  match reversed with
  | '/' :: _ => String.ofList (reversed.dropWhile (· = '/')).reverse
  | _ => path ++ "/"

/-- What is to be done with a request. -/
inductive Destination where
  | route (route : Route)
  | wrongMethod
  | redirect (path : String)
  | nowhere

/-- What is to be done with a request of a method on a path. -/
def destination (method path : String) : Destination :=
  match (routes path).find? (·.methods.contains method), routes path with
  | some route, _ => .route route
  | none, _ :: _ => .wrongMethod
  | none, [] =>
    if path ≠ "/" ∧ routes (otherEnding path) ≠ [] then .redirect (otherEnding path) else .nowhere

end TenantBroker.Http
