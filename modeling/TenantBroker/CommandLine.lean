import TenantBroker.Broker.Operation
import TenantBroker.CommandLine.Arguments
import TenantBroker.Log.Setup
import TenantBroker.Text.Terminal
import TenantBroker.Yaml

/-!
# The command line

There is one command for each operation of the broker, one for the catalog, and one that serves
HTTP. A result is printed as YAML. A failure that the broker foresees is reported on standard
error, after a warning in the log, which is written there too; any other one is not caught. What is
no command at all is a usage error. `SPEC_FULL.md`, section 4.
-/

namespace TenantBroker.CommandLine

open Broker (Failure)
open Cluster (Program)

/-- What the command line asks for. -/
inductive Command where
  | catalog
  | provision (instanceId username : String)
  | deprovision (instanceId : String)
  | lastOperation (instanceId operation : String)
  | serve (host : String) (socket : Int)
  deriving DecidableEq

/-- How a command ends. -/
inductive Outcome where
  /-- The arguments are no command. -/
  | usage
  /-- The command is done and prints a text. -/
  | done (output : String)
  /-- The broker refuses or fails, and says why. -/
  | refused (message : String)
  /-- A failure that nothing handles. -/
  | uncaught (failure : Failure)
  /-- HTTP is to be served. -/
  | serve (host : String) (socket : Int)

/-- The exit code of a command. -/
def Outcome.exitCode : Outcome → Nat
  | .usage => 2
  | .refused _ | .uncaught _ => 1
  | .done _ | .serve _ _ => 0

/-- What a command prints. -/
def Outcome.output : Outcome → String
  | .done output => output
  | _ => ""

/-- What a command reports of its own. A usage error and a failure that nothing handles are worded
elsewhere. -/
def Outcome.report : Outcome → String
  | .refused message => "Error: " ++ message ++ "\n"
  | _ => ""

/-- The name under which the command line logs. -/
def loggerName : String := "rhpam_broker.cli"

/-- The warning of a failure in the log. -/
def warningOf (time : Json) (message : String) : Log.Record where
  logger := .str loggerName
  levelName := .str "WARNING"
  time := time
  pattern := .str "CLI command failed with domain error: %s"
  arguments := [.str message]

/-- What a command warns of. -/
def Outcome.warnings (time : Json) : Outcome → List Log.Record
  | .refused message => [warningOf time message]
  | _ => []

/-- Where a command reports: standard error, which may be a terminal and holds the log as well. The
environment configures the log, and a clock gives the time of a warning. -/
structure Console where
  terminal : Bool
  env : Environment
  clock : Json
  time : String
  shown : Log.showTime clock = .ok time
  /-- What the log holds of the operation itself. -/
  logged : String

/-- What stands on standard error when a command has ended. -/
def Console.errors (c : Console) (outcome : Outcome) : Except Log.LineFault String := do
  let log := Log.Setup.started c.terminal c.env
  let lines ← (outcome.warnings c.clock).mapM (log.emit .warning)
  pure (c.logged ++ String.join lines ++ Text.onOutput c.terminal outcome.report)

/-- The address where HTTP is served unless another one is given. -/
def defaultHost : String := "0.0.0.0"

/-- The socket number where HTTP is served unless another one is given. -/
def defaultSocket : Int := 8080

/-- The socket number for a command that serves. -/
def readSocket? : Option String → Option Int
  | none => some defaultSocket
  | some text => Number.readWhole? text

/-- A command by its name and arguments. -/
def readNamed? (name : String) (args : List String) : Option Command :=
  match name with
  | "catalog" => do
    let a ← Arguments.read [] args
    if a.positional.isEmpty then some .catalog else none
  | "provision" => do
    let a ← Arguments.read ["--identity"] args
    some (.provision (← a.single?) (← a.option? "--identity"))
  | "deprovision" => do
    let a ← Arguments.read [] args
    some (.deprovision (← a.single?))
  | "last-operation" => do
    let a ← Arguments.read ["--operation"] args
    some (.lastOperation (← a.single?) (← a.option? "--operation"))
  | "serve" => do
    let a ← Arguments.read ["--host", "--port"] args
    let socket ← readSocket? (a.option? "--port")
    let host := (a.option? "--host").getD defaultHost
    if a.positional.isEmpty then some (.serve host socket) else none
  | _ => none

/-- The command that arguments ask for. Two hyphens may stand before its name. -/
def Command.read? : List String → Option Command
  | [] => none
  | "--" :: name :: args => readNamed? name args
  | name :: args => readNamed? name args

/-- Whether a failure is one that the broker foresees. -/
def isForeseen : Failure → Bool
  | .cluster (.value _) | .defect _ => false
  | _ => true

/-- The outcome of an operation, printed as a record. -/
def Outcome.ofOperation {α : Type} (record : α → List (String × Json)) : Except Failure α → Outcome
  | .ok value => .done (Yaml.write (record value))
  | .error f => if isForeseen f then .refused (f.message?.getD "") else .uncaught f

/-- An instance as it is printed. -/
def provisionedRecord (p : Broker.Provisioned) : List (String × Json) :=
  [("operation", .str p.operation), ("dashboard_url", .str p.dashboardUrl)]

/-- A status as it is printed. -/
def statusRecord (s : Broker.Status) : List (String × Json) :=
  [("state", .str s.state.name), ("description", .str s.description)]

/-- Does what a command asks for. -/
def Command.execute (config : Config) : Command → Program Outcome
  | .catalog => .done (.done (Yaml.write [("services", Catalog.listing)]))
  | .provision instanceId username =>
    (Broker.provisionPlain config instanceId username).map (.ofOperation provisionedRecord)
  | .deprovision instanceId =>
    (Broker.deprovision config instanceId).map
      (.ofOperation fun operation ↦ [("operation", .str operation)])
  | .lastOperation instanceId operation =>
    (Broker.lastOperation config instanceId operation).map (.ofOperation statusRecord)
  | .serve host socket => .done (.serve host socket)

/-- Does what the arguments ask for. -/
def run (config : Config) (args : List String) : Program Outcome :=
  match Command.read? args with
  | none => .done .usage
  | some command => command.execute config

end TenantBroker.CommandLine
