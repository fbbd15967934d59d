import TenantBroker.Config
import TenantBroker.Json.Shown

/-!
# Levels of the log

A level is a number; the usual ones have names, in any letter case. It is chosen by the caller or,
if the caller gives nothing, by the environment. What names no level stands for the level of
information. A truth value is a number too, and stays one.
-/

namespace TenantBroker.Log

/-- A level. -/
inductive Level where
  | flag (value : Bool)
  | number (value : Int)
  deriving DecidableEq

/-- The number of a level. -/
def Level.value : Level → Int
  | .flag value => if value then 1 else 0
  | .number value => value

def Level.warning : Level := .number 30
def Level.information : Level := .number 20
def Level.unset : Level := .number 0

/-- The names of levels; of two names for one number the first one is shown. -/
def levelNames : List (String × Int) := [
  ("CRITICAL", 50), ("FATAL", 50), ("ERROR", 40), ("WARNING", 30), ("WARN", 30), ("INFO", 20),
  ("DEBUG", 10), ("NOTSET", 0)]

/-- The name of the number of a level, if it has one. -/
def levelName? (value : Int) : Option String := (levelNames.find? (·.2 = value)).map (·.1)

/-- What is shown for a level that a record gives: the name of a number, the number of a name, and
the level itself where it is neither. -/
def shownLevel (level : Json) : Except Defect Json :=
  match level with
  | .arr _ | .obj _ => .error .wrongType
  | .str name => .ok (((levelNames.lookup name).map Json.int).getD (.str ("Level " ++ name)))
  | other => .ok (.str ((other.wholeValue?.bind levelName?).getD ("Level " ++ other.shown)))

/-- A character in capitals, as far as capitals are letters of level names: besides the small ASCII
letters only the dotless i and the long s have an ASCII capital. -/
def capital (c : Char) : Char :=
  if c = '\u0131' then 'I' else if c = '\u017f' then 'S' else c.toUpper

/-- The level that a text names. -/
def Level.ofText (text : String) : Level :=
  match levelNames.lookup (String.ofList (text.toList.map capital)) with
  | some value => .number value
  | none => .information

/-- The variable of the environment that chooses the level. -/
def levelVariable : String := "RHPAM_BROKER_LOG_LEVEL"

/-- The level that the environment chooses. -/
def Level.ofEnvironment (env : Environment) : Level :=
  .ofText ((env.get? levelVariable).getD "INFO")

/-- The level for what the caller gives. Whole numbers and truth values are taken as they are. -/
def Level.resolve (given : Json) (env : Environment) : Except Defect Level :=
  match given with
  | .bool value => .ok (.flag value)
  | .num (.int value) => .ok (.number value)
  | other =>
    if !other.isTruthy then .ok (.ofEnvironment env)
    else
      match other with
      | .str text => .ok (.ofText text)
      | _ => .error .notRecord

end TenantBroker.Log
