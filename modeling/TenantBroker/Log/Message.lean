import TenantBroker.Log.Conversion

/-!
# Messages with arguments

A message is a pattern and its arguments. The directives of the pattern are replaced by the
arguments one after the other, and two percent signs by one. All arguments have to be used, except
for a single record. A message without arguments is taken as it is.
-/

namespace TenantBroker.Log

/-- Reads a directive after its percent sign and converts its argument. `total` is the length of
the pattern. -/
def fillDirective (total : Nat) : Filling (List Char) := do
  let d ← readDirective
  let argument ← takeArgument
  d.convert (total - (← get).rest.length - 1) argument

/-- Fills what is left of a pattern; every step makes it shorter than `fuel`. -/
def fillRest (total : Nat) : (fuel : Nat) → Filling (List Char)
  | 0 => pure []
  | fuel + 1 => do
    match (← get).rest with
    | [] => pure []
    | '%' :: '%' :: rest =>
      goOn rest
      return '%' :: (← fillRest total fuel)
    | '%' :: rest =>
      goOn rest
      let text ← fillDirective total
      return text ++ (← fillRest total fuel)
    | c :: rest =>
      goOn rest
      return c :: (← fillRest total fuel)

/-- Fills a pattern. -/
def fill (pattern : String) (arguments : List Json) : Except FillFault String :=
  if arguments.isEmpty then .ok pattern
  else do
    let cs := pattern.toList
    let (text, left) ← (fillRest cs.length (cs.length + 1)).run ⟨cs, .ofArguments arguments⟩
    if left.supply.fields.isNone && !left.supply.queue.isEmpty then throw .mismatch
    pure (String.ofList text)

end TenantBroker.Log
