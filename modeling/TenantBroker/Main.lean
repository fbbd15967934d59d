import TenantBroker.Cluster.Store
import TenantBroker.CommandLine

/-!
# The program

Reads the settings from the environment, runs the command line on an empty cluster in memory, and
prints what came of it. No listener for HTTP is built in, and no log is kept.
-/

open TenantBroker

/-- The variables of the settings that are set. -/
def readEnvironment : IO Environment :=
  Config.variableNames.filterMapM fun name ↦ do
    return (← IO.getEnv name).map (name, ·)

/-- Prints the outcome of a command. -/
def report (outcome : CommandLine.Outcome) : IO UInt32 := do
  match outcome with
  | .usage => IO.eprintln "Error: no such command"
  | .uncaught failure => IO.eprintln (failure.message?.getD "defect")
  | .serve host socket =>
    IO.eprintln ("Error: cannot listen on " ++ host ++ ":" ++ toString socket)
  | outcome =>
    IO.print outcome.output
    IO.eprint (Text.onOutput (← (← IO.getStderr).isTty) outcome.report)
  return UInt32.ofNat outcome.exitCode

/-- Runs the command line. -/
def main (args : List String) : IO UInt32 := do
  match Config.ofEnvironment (← readEnvironment) with
  | .error fault =>
    IO.eprintln ("Error: " ++ fault.message)
    return 1
  | .ok config => report ((CommandLine.run config args).run Cluster.Store.handle .empty).1
