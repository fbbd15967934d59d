import TenantBroker.Log.Calendar
import TenantBroker.Log.Level
import TenantBroker.Log.Message

/-!
# The log

The log has a level, a level for the loggers of libraries, which is never below that of warnings,
and outputs with a level each. Configuring it sets the levels and adds an output unless there is
one; when forced, it replaces the outputs by a new one. An output shows a record on one line: the
time, the name of the level in a column of eight characters and, on a terminal that takes colours,
in its colour, the logger, and the message. `SPEC_FULL.md`, section 2.
-/

namespace TenantBroker.Log

/-- An output of the log. -/
structure Handler where
  level : Level
  coloured : Bool
  deriving DecidableEq

/-- The state of the log. -/
structure Setup where
  root : Level
  libraries : Level
  handlers : List Handler
  deriving DecidableEq

/-- The log before it is configured. -/
def Setup.initial : Setup := ⟨.warning, .unset, []⟩

/-- The variable of the environment that turns colours off. -/
def colourVariable : String := "NO_COLOR"

/-- Whether an output is coloured: on a terminal, unless the environment says otherwise. -/
def usesColour (terminal : Bool) (env : Environment) : Bool :=
  terminal && (env.get? colourVariable).getD "" = ""

/-- The level of libraries under a level of the log. -/
def libraryLevel (level : Level) : Level :=
  if level.value < Level.warning.value then .warning else level

/-- What the log is to be configured with. -/
structure Request where
  level : Json := .null
  force : Bool := false
  terminal : Bool := false
  env : Environment := []

/-- Configures the log. -/
def Setup.configure (s : Setup) (r : Request) : Except Defect Setup :=
  (Level.resolve r.level r.env).map fun level ↦
    { root := level
      libraries := libraryLevel level
      handlers :=
        if s.handlers.isEmpty || r.force then [⟨level, usesColour r.terminal r.env⟩]
        else s.handlers.map fun h ↦ { h with level } }

/-- The log of a program that configures it when it starts and finds none. -/
def Setup.started (terminal : Bool) (env : Environment) : Setup :=
  let level := Level.ofEnvironment env
  ⟨level, libraryLevel level, [⟨level, usesColour terminal env⟩]⟩

/-- The first configuration starts the log. -/
theorem configure_initial (terminal : Bool) (env : Environment) :
    Setup.initial.configure { terminal, env } = .ok (.started terminal env) := rfl

/-- What is logged: by whom, under which name of its level, when, and the message. Any value may
stand for each of these. -/
structure Record where
  logger : Json
  levelName : Json
  time : Json
  pattern : Json
  arguments : List Json

/-- Why a record cannot be shown. -/
inductive LineFault where
  | levelName (what : Defect)
  | message (fault : FillFault)
  | time (fault : TimeFault)
  deriving DecidableEq

/-- The colours of level names. -/
def colours : List (String × String) := [
  ("DEBUG", "36"), ("INFO", "32"), ("WARNING", "33"), ("ERROR", "31"), ("CRITICAL", "1;31")]

/-- The name of a level in its colour, if it has one. -/
def colouredName (name : String) : String :=
  match colours.lookup name with
  | some colour => "\x1b[" ++ colour ++ "m" ++ name ++ "\x1b[0m"
  | none => name

/-- A text filled up with spaces to eight characters. -/
def padded (text : String) : String :=
  text ++ String.ofList (List.replicate (8 - text.length) ' ')

/-- The name of a level as an output shows it. A colour is looked up by a plain value only. -/
def Handler.shownName (h : Handler) (name : Json) : Except Defect String :=
  match h.coloured, name with
  | true, .str name => .ok (colouredName name)
  | true, .arr _ | true, .obj _ => .error .wrongType
  | _, name => .ok name.shown

/-- The line on which an output shows a record. -/
def Handler.line (h : Handler) (r : Record) : Except LineFault String := do
  let name ← (h.shownName r.levelName).mapError .levelName
  let message ← (fill r.pattern.shown r.arguments).mapError .message
  let time ← (showTime r.time).mapError .time
  pure (time ++ " | " ++ padded name ++ " | " ++ r.logger.shown ++ " | " ++ message)

/-- The lines on which a record is shown. -/
def Setup.lines (s : Setup) (r : Record) : Except LineFault (List String) :=
  s.handlers.mapM (·.line r)

/-- What is written for a record of a level: a line for each output, unless the level is below that
of the log or of the output. -/
def Setup.emit (s : Setup) (level : Level) (r : Record) : Except LineFault String := do
  let takers := s.handlers.filter fun h ↦
    s.root.value ≤ level.value && h.level.value ≤ level.value
  let lines ← takers.mapM (·.line r)
  pure (String.join (lines.map (· ++ "\n")))

end TenantBroker.Log
