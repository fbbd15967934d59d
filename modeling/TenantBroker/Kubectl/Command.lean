import TenantBroker.Json.Shown
import TenantBroker.Kubectl.Classification

/-!
# One run of a command

A run either finishes with a return code and what it printed, or its time limit expires, or it
cannot be started. The last two are reported like a failed command: an expired limit as return code
-1 with what had been printed so far, a start that failed as return code 127 (`SPEC_FULL.md`,
section 3). Bytes printed before the limit expired have to be UTF-8; if they are not, there is no
result.
-/

namespace TenantBroker.Kubectl

open Cluster (Failure CommandFailure ValueFault)

/-- What was printed before a time limit expired. -/
inductive Captured where
  | nothing
  | text (value : String)
  | bytes (value : List UInt8)
  deriving DecidableEq

/-- Why a command could not be started. -/
inductive StartFault where
  | numbered (number : Int) (reason : String) (file : Option String)
  | plain (reason : String)
  deriving DecidableEq

/-- The wording of a start that failed. -/
def StartFault.message : StartFault → String
  | .numbered number reason none => "[Errno " ++ toString number ++ "] " ++ reason
  | .numbered number reason (some file) =>
    "[Errno " ++ toString number ++ "] " ++ reason ++ ": " ++ Text.quoted file
  | .plain reason => reason

/-- How a run ends. -/
inductive Outcome where
  | expired (captured : Captured)
  | unstartable (fault : StartFault)
  | finished (returncode : Int) (stdout stderr : Option String)
  deriving DecidableEq

/-- The result of a run. -/
structure Result where
  returncode : Int
  stdout : String
  stderr : String
  deriving DecidableEq

/-- A command line. Its words are texts, but a name from a record may be any value. -/
abbrev Command := List Json

/-- A time limit in a message. -/
def limitText : Option Number → String
  | none => "None"
  | some limit => limit.text

/-- The text that was captured. -/
def Captured.decode : Captured → Except Failure String
  | .nothing => .ok ""
  | .text value => .ok value
  | .bytes value =>
    match Text.Utf8.decode value with
    | .ok cs => .ok (String.ofList cs)
    | .error fault => .error (.cause (.value (.undecodable fault)))

/-- The result that an outcome stands for. -/
def Outcome.result (limit : Option Number) (command : Command) : Outcome → Except Failure Result
  | .expired captured =>
    captured.decode.map fun stdout ↦
      ⟨-1, stdout, "command timed out after " ++ limitText limit ++ "s"⟩
  | .unstartable fault =>
    match command with
    | [] => .error (.defect .noWord)
    | program :: _ => .ok ⟨127, "", "cannot run " ++ program.shown ++ ": " ++ fault.message⟩
  | .finished returncode stdout stderr => .ok ⟨returncode, stdout.getD "", stderr.getD ""⟩

/-- The words of a command line; none if one of them is no text. -/
def words? (command : Command) : Option (List String) := command.mapM Json.text?

/-- The failure that a result with a return code other than zero stands for. -/
def Result.failure (r : Result) (summary : String) (command : Command) : Failure :=
  match words? command with
  | none => .defect .wrongType
  | some words =>
    .cause (.command
      ⟨summary, words, r.returncode, r.stdout, r.stderr, classify r.returncode r.stderr r.stdout⟩)

/-- The result of a run that succeeded, or its failure under a summary. -/
def conclude (summary : String) (limit : Option Number) (command : Command) (outcome : Outcome) :
    Except Failure Result :=
  match outcome.result limit command with
  | .error f => .error f
  | .ok r => if r.returncode = 0 then .ok r else .error (r.failure summary command)

end TenantBroker.Kubectl
