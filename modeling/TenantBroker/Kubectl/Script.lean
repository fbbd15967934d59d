import TenantBroker.Json.Writer
import TenantBroker.Kubectl.Command

/-!
# Scripted runs

A script says how the runs of a session end, one after the other, and how every run after those
ends. A planned run may echo the manifest that was submitted, as the server does when it creates an
object, with a name of its own choice. The session keeps what was run and how long it waited.
-/

namespace TenantBroker.Kubectl

/-- A run: the command, its time limit, and the manifest if one was submitted. -/
structure Run where
  command : Command
  limit : Option Number
  manifest : Option Json

/-- How a run is planned to end. -/
inductive Planned where
  | fixed (outcome : Outcome)
  | echo (returncode : Int) (name : Option String) (stderr : Option String)

/-- The submitted object with a name; metadata that do not count as present are replaced. -/
def withName (object : Json) (name : String) : Json :=
  match object with
  | .obj fields =>
    let metadata := match Json.field? fields "metadata" with
      | some (.obj metadata) => metadata
      | _ => []
    .obj (Json.setField fields "metadata" (.obj (Json.setField metadata "name" (.str name))))
  | other => other

/-- How a planned run ends for a submitted manifest. -/
def Planned.outcomeFor (manifest : Option Json) : Planned → Outcome
  | .fixed outcome => outcome
  | .echo returncode name stderr =>
    let object := manifest.getD (.obj [])
    let object := match name with
      | some name => withName object name
      | none => object
    .finished returncode (some object.write) stderr

/-- A session: the planned runs, the plan for all later ones, what was run, and the waits. -/
structure Session where
  planned : List Planned
  afterwards : Planned
  runs : List Run := []
  waits : List Binary64 := []

/-- Runs a command. -/
def Session.run (s : Session) (r : Run) : Outcome × Session :=
  match s.planned with
  | [] => (s.afterwards.outcomeFor r.manifest, { s with runs := s.runs ++ [r] })
  | next :: rest =>
    (next.outcomeFor r.manifest, { s with planned := rest, runs := s.runs ++ [r] })

/-- Waits. -/
def Session.wait (s : Session) (length : Binary64) : Session :=
  { s with waits := s.waits ++ [length] }

end TenantBroker.Kubectl
