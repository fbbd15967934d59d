import TenantBroker.Json
import TenantBroker.Text.Case
import TenantBroker.Text.Percent

/-!
# Requests and responses

A request has a method, a path with its escapes undone, a query, headers, the bytes of a body and
the address that it came in at. Header names match in any letter case; of a repeated query parameter
the last value counts. A response has a status and either a JSON value or a text, and a redirect
names a location.
-/

namespace TenantBroker.Http

/-- A request. -/
structure Request where
  method : String
  path : String
  query : String := ""
  headers : List (String × String) := []
  body : List UInt8 := []
  /-- The address of the server, as it stands in a location. -/
  server : String

/-- The value of a header. -/
def Request.header? (r : Request) (name : String) : Option String :=
  (r.headers.find? fun h ↦ Text.foldAscii h.1 = Text.foldAscii name).map (·.2)

/-- The value of a query parameter. A query is read byte by byte: a character that is not escaped
counts as the characters of its bytes. -/
def Request.parameter? (r : Request) (name : String) : Option String :=
  ((Text.Percent.queryPairs (Text.Percent.bytewise r.query.toList)).reverse.find?
    (·.1 = name)).map (·.2)

/-- What a response carries. -/
inductive Content where
  | json (value : Json)
  | text (value : String)

/-- A response. -/
structure Response where
  status : Nat
  content : Content
  location : Option String := none

/-- A response with a JSON value. -/
def Response.ofJson (status : Nat) (value : Json) : Response := ⟨status, .json value, none⟩

/-- A response that says no more than what is wrong. -/
def Response.detail (status : Nat) (detail : Json) : Response :=
  .ofJson status (.obj [("detail", detail)])

/-- A response that sends the caller to another location. -/
def Response.redirect (location : String) : Response :=
  ⟨307, .text "", some (String.ofList (Text.Percent.quoteLocation location.toList))⟩

/-- A response to a failure with a name of its own. -/
def Response.failure (status : Nat) (error description : String) : Response :=
  .ofJson status (.obj [("error", .str error), ("description", .str description)])

/-- The response to a defect. -/
def Response.broken : Response := ⟨500, .text "Internal Server Error", none⟩

end TenantBroker.Http
