import TenantBroker.Number.Reading

/-!
# Arguments of the command line

A command takes positional arguments and options with a value, in any order. The value of an option
follows it as the next argument, whatever that is, or after an equals sign. A repeated option
counts once, with its last value. Two hyphens end the options. Option names are written in full.
-/

namespace TenantBroker.CommandLine

/-- Arguments told apart: options with their values in the order given, and the others. -/
structure Arguments where
  options : List (String × String)
  positional : List String
  deriving DecidableEq

/-- Whether an argument is an option; a lone hyphen is none. -/
def isOption (arg : String) : Bool := arg.toList.head? = some '-' && arg != "-"

/-- The name of an option and the value after its equals sign. -/
def splitOption (arg : String) : String × Option String :=
  let cs := arg.toList
  let name := String.ofList (cs.takeWhile (· ≠ '='))
  match cs.dropWhile (· ≠ '=') with
  | [] => (name, none)
  | _ :: value => (name, some (String.ofList value))

/-- Adds an option. -/
def Arguments.withOption (name value : String) (a : Arguments) : Arguments :=
  { a with options := (name, value) :: a.options }

/-- Adds another argument. -/
def Arguments.withPositional (arg : String) (a : Arguments) : Arguments :=
  { a with positional := arg :: a.positional }

/-- Tells arguments apart; none if there is an option of another name or one without a value. -/
def Arguments.read (names : List String) : List String → Option Arguments
  | [] => some ⟨[], []⟩
  | arg :: rest =>
    if arg = "--" then some ⟨[], rest⟩
    else if !isOption arg then (read names rest).map (withPositional arg)
    else if !names.contains (splitOption arg).1 then none
    else
      match (splitOption arg).2 with
      | some value => (read names rest).map (withOption (splitOption arg).1 value)
      | none =>
        match rest with
        | [] => none
        | value :: rest => (read names rest).map (withOption (splitOption arg).1 value)

/-- The last value of an option. -/
def Arguments.option? (a : Arguments) (name : String) : Option String :=
  (a.options.reverse.find? (·.1 = name)).map (·.2)

/-- The only positional argument. -/
def Arguments.single? (a : Arguments) : Option String :=
  match a.positional with
  | [arg] => some arg
  | _ => none

end TenantBroker.CommandLine
