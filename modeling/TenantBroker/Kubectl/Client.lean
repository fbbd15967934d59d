import TenantBroker.Cluster.Program
import TenantBroker.Config
import TenantBroker.Json.Reader
import TenantBroker.Json.Writable
import TenantBroker.Kubectl.Script

/-!
# A cluster behind kubectl

Each call is one command, run again while its failure may pass and attempts are left. The wait
before the next attempt doubles from the backoff on and stays at 30 seconds once it has come to
more. Reads and deletes are repeated after every retryable failure; a create only after one that
proves that the server never saw the request, so that nothing is created twice
(`SPEC_FULL.md`, sections 3 and 5). Nothing is run for a manifest that cannot be written or for a
name that cannot be shown.
-/

namespace TenantBroker.Kubectl

open Cluster (Call Failure Kind)

/-- How the client runs commands. `attempts` counts the first run too. -/
structure Client where
  program : String := "kubectl"
  timeout : Binary64 := .ofNat 60
  attempts : Nat := 3
  backoff : Binary64 := .ofNat 1

/-- The client that settings ask for. -/
def Client.ofConfig (config : Config) : Client :=
  ⟨config.program, config.stepTimeout, config.retryAttempts, config.retryBackoff⟩

/-- The longest wait, in seconds. -/
def maxWait : Nat := 30

/-- The greatest power of two that is a floating-point number. -/
def maxPower : Nat := 1023

/-- The wait after a number of attempts: `backoff * 2 ^ (number - 1)` within 0 and the longest
wait, and the longest wait once the power of two is too large to be multiplied with. -/
def waitAfter (backoff : Binary64) (number : Nat) : Binary64 :=
  if maxPower < number - 1 then .ofNat maxWait
  else
    match backoff with
    | .nan => .zero
    | .infinite negative => if negative then .zero else .ofNat maxWait
    | .finite negative significand exponent =>
      if negative || significand == 0 then .zero
      else if Binary64.exceeds significand (exponent + (number - 1 : Nat)) maxWait then
        .ofNat maxWait
      else Binary64.scaleUp significand exponent (number - 1)

/-- Runs a command up to `left` times more after an attempt that failed in a way that is to be
repeated. `number` counts the attempts made so far. -/
def attempt (summary : String) (again : Failure → Bool) (backoff : Binary64) (r : Run) :
    (left number : Nat) → Session → Except Failure Result × Session
  | left, number, s =>
    let (outcome, s) := s.run r
    match conclude summary r.limit r.command outcome with
    | .ok result => (.ok result, s)
    | .error f =>
      match left with
      | 0 => (.error f, s)
      | left + 1 =>
        if again f then
          attempt summary again backoff r left (number + 1) (s.wait (waitAfter backoff number))
        else (.error f, s)

/-- Reads and deletes are repeated after every failure that may pass. -/
def repeatsRead (f : Failure) : Bool := f.isRetryable

/-- Creates are repeated only if the server never saw the request. -/
def repeatsCreate : Failure → Bool
  | .cause (.command f) => isUnsent f
  | _ => false

/-- A text that shows a value, if the value has a text. -/
def showing (value : Json) (text : String) : Except Failure String :=
  if value.isWritable then .ok text else .error (.cause (.value .unwritable))

/-- The name of a manifest in messages: its own, or the stem of the one to be generated. -/
def displayName (manifest : Json) : Except Failure String := do
  let metadata ← manifest.metadata.mapError .defect
  let name ← (metadata.get "name").mapError .defect
  if name.isTruthy then showing name name.shown
  else
    let stem ← (metadata.getD "generateName" (.str "")).mapError .defect
    showing stem (stem.shown ++ "<generated>")

/-- The object that a command printed about a resource. A document that is nested too deeply for an
interpreter is read all the same. -/
def printedObject (what stdout : String) : Except Failure Json :=
  match Json.read stdout with
  | .ok (.obj fields) => .ok (.obj fields)
  | .ok _ => .error (.cause (.value (.notObject what)))
  | .error (.tooManyDigits count) => .error (.cause (.value (.tooManyDigits count)))
  | .error (.malformed _ _) => .error (.cause (.value (.notJson what)))

/-- The word that stands in a command for the path of the file with the manifest. -/
def manifestPath : String := "<manifest>"

namespace Client

/-- The time that a request may take, in whole seconds and at least one. -/
def requestTimeout (c : Client) : Except Failure String :=
  match c.timeout with
  | .nan => .error (.cause (.value .limitNotNumber))
  | .infinite _ => .error (.defect .outOfRange)
  | .finite negative significand exponent =>
    let whole := if negative then 0 else Binary64.wholePart significand exponent
    .ok ("--request-timeout=" ++ toString (max 1 whole) ++ "s")

/-- The first words of every command on a kind in a namespace. -/
def start (c : Client) (kind : Kind) (ns : Json) : Except Failure Command :=
  c.requestTimeout.map fun timeout ↦
    .str c.program :: .str timeout ::
      if kind.namespaced && ns.isTruthy then [.str "--namespace", ns] else []

/-- Runs a command, given its first words, the others and the summary of a failure, with the
attempts of the client. -/
def execute (c : Client) (summary : Except Failure String) (again : Failure → Bool)
    (manifest : Option Json) (first : Except Failure Command) (others : Command) (s : Session) :
    Except Failure Result × Session :=
  match first, summary with
  | .error f, _ => (.error f, s)
  | .ok _, .error f => (.error f, s)
  | .ok first, .ok summary =>
    attempt summary again c.backoff ⟨first ++ others, some (.real c.timeout), manifest⟩
      (c.attempts - 1) 1 s

/-- The name under which an object was created has to be readable from its metadata. -/
def checkCreated (created : Json) : Except Failure Json :=
  match created.getD "metadata" (.obj []) >>= (·.get "name") with
  | .ok _ => .ok created
  | .error d => .error (.defect d)

/-- The items of a listing: those of a list, the names of a record or the characters of a text;
nothing that counts as present is missing items. -/
def listedItems (listing : Json) : Except Failure (List Json) :=
  match listing.get "items" with
  | .error d => .error (.defect d)
  | .ok items =>
    match items with
    | .arr items => .ok items
    | .obj fields => .ok (fields.map fun f ↦ .str f.1)
    | .str text => .ok (text.toList.map fun c ↦ .str (String.ofList [c]))
    | .null => .ok []
    | .bool value => if value then .error (.defect .wrongType) else .ok []
    | .num value => if value.isNonzero then .error (.defect .wrongType) else .ok []

/-- Goes on from a result that succeeded. -/
def afterwards {α : Type} (outcome : Except Failure Result × Session)
    (read : String → Except Failure α) : Except Failure α × Session :=
  (outcome.1 >>= fun r ↦ read r.stdout, outcome.2)

/-- The namespace and the display name that a manifest gives, if the manifest can be written to a
file. -/
def submission (manifest : Json) : Except Failure (Json × String) := do
  let metadata ← manifest.metadata.mapError .defect
  let ns ← (metadata.get "namespace").mapError .defect
  let display ← displayName manifest
  pure (ns, ← showing manifest display)

/-- Creates an object. -/
def create (c : Client) (kind : Kind) (manifest : Json) (s : Session) :
    Except Failure Json × Session :=
  match submission manifest with
  | .error f => (.error f, s)
  | .ok (ns, display) =>
    let what := kind.name ++ " " ++ display
    afterwards
      (c.execute (.ok ("Failed to create " ++ what)) repeatsCreate (some manifest)
        (c.start kind ns) (["create", "-f", manifestPath, "-o", "json"].map .str) s)
      fun stdout ↦ printedObject what stdout >>= checkCreated

/-- Finds an object. -/
def get (c : Client) (kind : Kind) (name ns : Json) (s : Session) :
    Except Failure Json × Session :=
  let what := kind.name ++ " " ++ name.shown
  afterwards
    (c.execute (showing name ("Failed to get " ++ what)) repeatsRead none (c.start kind ns)
      [.str "get", .str kind.resource, name, .str "-o", .str "json"] s)
    (printedObject what)

/-- Lists the objects of a kind in a namespace. -/
def list (c : Client) (kind : Kind) (ns : Json) (s : Session) :
    Except Failure (List Json) × Session :=
  afterwards
    (c.execute (showing ns ("Failed to list " ++ kind.name ++ " in namespace " ++ ns.shown))
      repeatsRead none (c.start kind ns)
      [.str "get", .str kind.resource, .str "-o", .str "json"] s)
    fun stdout ↦ printedObject (kind.name ++ " list") stdout >>= listedItems

/-- Deletes an object. -/
def delete (c : Client) (kind : Kind) (name ns : Json) (s : Session) :
    Except Failure Unit × Session :=
  afterwards
    (c.execute (showing name ("Failed to delete " ++ kind.name ++ " " ++ name.shown)) repeatsRead
      none (c.start kind ns)
      [.str "delete", .str kind.resource, name, .str "--wait=false"] s)
    fun _ ↦ .ok ()

/-- Answers a call. -/
def handle (c : Client) : Cluster.Handler Session
  | .create kind manifest, s => c.create kind manifest s
  | .get kind name ns, s => c.get kind name ns s
  | .list kind ns, s => c.list kind ns s
  | .delete kind name ns, s => c.delete kind name ns s

end Client

end TenantBroker.Kubectl
