import TenantBroker.Http.Message
import TenantBroker.Json.Reader
import TenantBroker.Text.Utf8

/-!
# Validation of requests

What a request lacks or has in the wrong form is listed as issues, the query's before the body's. A
body that is not JSON is one issue of its own, unless its content type is another one: then the
body counts as a text, and the issue that it is no record shows that text, which has to be UTF-8. A
body has to be a record with a service and a plan id; the other members may be missing or null.
-/

namespace TenantBroker.Http

/-- Where an issue is. -/
inductive Location where
  | query (name : String)
  | body
  | member (name : String)
  | character (index : Nat)
  deriving DecidableEq

/-- A location as a list of steps. -/
def Location.toJson : Location → Json
  | .query name => Json.strings ["query", name]
  | .body => Json.strings ["body"]
  | .member name => Json.strings ["body", name]
  | .character index => .arr [.str "body", Json.int index]

/-- What is wrong with a part of a request. -/
inductive Problem where
  | missing
  | notBoolean
  | notFields
  | notText
  | notRecord
  | malformed (reason : Json.Reason)
  deriving DecidableEq

/-- The name of a problem. -/
def Problem.name : Problem → String
  | .missing => "missing"
  | .notBoolean => "bool_parsing"
  | .notFields => "model_attributes_type"
  | .notText => "string_type"
  | .notRecord => "dict_type"
  | .malformed _ => "json_invalid"

/-- The wording of a problem. -/
def Problem.message : Problem → String
  | .missing => "Field required"
  | .notBoolean => "Input should be a valid boolean, unable to interpret input"
  | .notFields => "Input should be a valid dictionary or object to extract fields from"
  | .notText => "Input should be a valid string"
  | .notRecord => "Input should be a valid dictionary"
  | .malformed _ => "JSON decode error"

/-- A problem, where it is, and the value that has it. -/
structure Issue where
  problem : Problem
  location : Location
  input : Json

/-- An issue as a record. -/
def Issue.toJson (issue : Issue) : Json :=
  .obj ([("type", .str issue.problem.name), ("loc", issue.location.toJson),
    ("msg", .str issue.problem.message), ("input", issue.input)] ++
    match issue.problem with
    | .malformed reason => [("ctx", .obj [("error", .str reason.message)])]
    | _ => [])

/-- The texts that stand for true. -/
def trueTexts : List String := ["1", "t", "y", "on", "yes", "true"]

/-- The texts that stand for false. -/
def falseTexts : List String := ["0", "f", "n", "no", "off", "false"]

/-- The query parameter by which a caller accepts an answer before the work is done. -/
def incompleteParameter : String := "accepts_incomplete"

/-- Whether the caller accepts an answer before the work is done; not if it does not say so. -/
def acceptsIncomplete (r : Request) : Except Issue Bool :=
  match r.parameter? incompleteParameter with
  | none => .ok false
  | some value =>
    let folded := Text.foldAscii value
    if trueTexts.contains folded then .ok true
    else if falseTexts.contains folded then .ok false
    else .error ⟨.notBoolean, .query incompleteParameter, .str value⟩

/-- The type and the subtype that a content type names, in lower case. What has no single slash
names plain text. -/
def mediaType (contentType : String) : String × String :=
  let cs := (Text.lower (Text.trim
    (String.ofList (contentType.toList.takeWhile (· ≠ ';'))))).toList
  if cs.count '/' = 1 then
    (String.ofList (cs.takeWhile (· ≠ '/')), String.ofList ((cs.dropWhile (· ≠ '/')).drop 1))
  else ("text", "plain")

/-- Whether a content type is JSON. -/
def isJsonType (contentType : String) : Bool :=
  match mediaType contentType with
  | (type, subtype) =>
    type = "application" && (subtype = "json" || "nosj+".toList.isPrefixOf subtype.toList.reverse)

/-- The content type of a request; a body without one, or with an empty one, is JSON. -/
def Request.contentType (r : Request) : String :=
  ((r.header? "content-type").filter (· ≠ "")).getD "application/json"

/-- Why a body cannot be read. -/
inductive BodyFault where
  | malformed (reason : Json.Reason) (index : Nat)
  | unreadable
  | undecodable (fault : Text.Utf8.Fault)
  deriving DecidableEq

/-- The value of a body, if there is one. -/
def readBody (r : Request) : Except BodyFault (Option Json) :=
  if r.body = [] then .ok none
  else if isJsonType r.contentType then
    match Json.readBytes r.body with
    | .ok value => .ok (some value)
    | .error (.unreadable (.malformed reason place)) => .error (.malformed reason place.index)
    | .error _ => .error .unreadable
  else
    match Text.Utf8.decode r.body with
    | .ok cs => .ok (some (.str (String.ofList cs)))
    | .error fault => .error (.undecodable fault)

/-- What a caller asks for who wants an instance. -/
structure ProvisionRequest where
  service : String
  plan : String
  parameters : Json

/-- The issue of a member that has to be a text. -/
def requiredText (body : Json) (fields : List (String × Json)) (name : String) : Option Issue :=
  match Json.field? fields name with
  | none => some ⟨.missing, .member name, body⟩
  | some (.str _) => none
  | some value => some ⟨.notText, .member name, value⟩

/-- The issue of a member that may be a text. -/
def optionalText (fields : List (String × Json)) (name : String) : Option Issue :=
  match Json.field? fields name with
  | none | some .null | some (.str _) => none
  | some value => some ⟨.notText, .member name, value⟩

/-- The issue of a member that may be a record. -/
def optionalRecord (fields : List (String × Json)) (name : String) : Option Issue :=
  match Json.field? fields name with
  | none | some .null | some (.obj _) => none
  | some value => some ⟨.notRecord, .member name, value⟩

/-- The issues of the members of a body. -/
def memberIssues (body : Json) (fields : List (String × Json)) : List Issue :=
  [requiredText body fields "service_id", requiredText body fields "plan_id",
    optionalText fields "organization_guid", optionalText fields "space_guid",
    optionalRecord fields "parameters", optionalRecord fields "context"].filterMap id

/-- The text of a member. -/
def memberText (fields : List (String × Json)) (name : String) : String :=
  ((Json.field? fields name).bind Json.text?).getD ""

/-- Checks the value of a body. -/
def checkBody : Option Json → Except (List Issue) ProvisionRequest
  | none => .error [⟨.missing, .body, .null⟩]
  | some (.obj fields) =>
    match memberIssues (.obj fields) fields with
    | [] => .ok ⟨memberText fields "service_id", memberText fields "plan_id",
        (Json.field? fields "parameters").getD .null⟩
    | issues => .error issues
  | some value => .error [⟨.notFields, .body, value⟩]

mutual

/-- Whether a value has a number in it that JSON has no notation for. -/
def hasNonfinite : Json → Bool
  | .num (.real x) => !x.isFinite
  | .arr items => hasNonfiniteItem items
  | .obj fields => hasNonfiniteField fields
  | _ => false

/-- Whether an item has such a number in it. -/
def hasNonfiniteItem : List Json → Bool
  | [] => false
  | item :: rest => hasNonfinite item || hasNonfiniteItem rest

/-- Whether a field has such a number in it. -/
def hasNonfiniteField : List (String × Json) → Bool
  | [] => false
  | (_, value) :: rest => hasNonfinite value || hasNonfiniteField rest

end

/-- The response to issues. It repeats the values that have them, and fails if JSON has no notation
for one of those. -/
def issuesResponse (issues : List Issue) : Response :=
  if issues.any fun issue ↦ hasNonfinite issue.input then
    .failure 500 "InternalServerError" "Out of range float values are not JSON compliant"
  else .detail 422 (.arr (issues.map Issue.toJson))

end TenantBroker.Http
