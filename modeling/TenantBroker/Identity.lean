import TenantBroker.Json.Reader
import TenantBroker.Text.Base64
import TenantBroker.Text.Blank
import TenantBroker.Text.Quoted

/-!
# The originating identity

A request says on whose behalf it is made by a platform name and, after a space, the base64 text of
a JSON record with the name of the user (`SPEC_FULL.md`, section 4).
-/

namespace TenantBroker.Identity

/-- Why the part after the platform is no JSON value. -/
inductive PayloadFault where
  | notBase64 (fault : Text.Base64.Fault)
  | notJson (fault : Json.BytesFault)
  deriving DecidableEq

/-- The wording of a fault. -/
def PayloadFault.message : PayloadFault → String
  | .notBase64 fault => fault.message
  | .notJson fault => fault.message

/-- Why an identity names no user. -/
inductive Fault where
  | missing
  | notTwoParts
  | unreadable (fault : PayloadFault)
  | noUsername (platform : String)
  deriving DecidableEq

/-- The name of the header that carries an identity. -/
def headerName : String := "X-Broker-API-Originating-Identity"

/-- The wording of a fault. -/
def Fault.message : Fault → String
  | .missing => headerName ++ " header is required"
  | .notTwoParts => headerName ++ " must be '<platform> <base64 value>'"
  | .unreadable fault => headerName ++ " value is not base64 JSON: " ++ fault.message
  | .noUsername platform =>
    "originating identity from platform " ++ Text.quoted platform ++ " has no username"

/-- The JSON value that base64 text stands for. -/
def readPayload (encoded : List Char) : Except PayloadFault Json :=
  match Text.Base64.decode encoded with
  | .error fault => .error (.notBase64 fault)
  | .ok bytes => (Json.readBytes bytes).mapError .notJson

/-- The name of the user in a payload. -/
def username? : Json → Option String
  | .obj fields => ((Json.field? fields "username").bind Json.text?).filter (· != "")
  | _ => none

/-- The name of the user that an identity with a platform and a payload gives. -/
def readParts (platform encoded : List Char) : Except Fault String :=
  match readPayload (Text.trimBoth Text.isBlank encoded) with
  | .error fault => .error (.unreadable fault)
  | .ok payload =>
    match username? payload with
    | none => .error (.noUsername (String.ofList platform))
    | some username => .ok username

/-- Reads an identity: the platform ends at the first space. -/
def read : Option String → Except Fault String
  | none => .error .missing
  | some header =>
    if header = "" then .error .missing
    else
      let cs := Text.trimBoth Text.isBlank header.toList
      let encoded := (cs.dropWhile (· ≠ ' ')).drop 1
      if encoded.isEmpty then .error .notTwoParts
      else readParts (cs.takeWhile (· ≠ ' ')) encoded

end TenantBroker.Identity
