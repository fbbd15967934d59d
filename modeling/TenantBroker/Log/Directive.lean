import TenantBroker.Json
import TenantBroker.Number.Reading

/-!
# Directives of a pattern

A directive stands in a pattern for an argument. After the percent sign it may have a key in
parentheses, flags, a width, a precision after a point, and one letter for a size, which says
nothing; it ends with the letter of a conversion. A star for the width or the precision takes the
number from the arguments. A key takes its argument from a record, so it can be used only where the
arguments are a single record.
-/

namespace TenantBroker.Log

/-- Why a pattern cannot be filled. -/
inductive FillFault where
  /-- Arguments are missing or left over, or one is of the wrong type. -/
  | mismatch
  /-- The record lacks the field of a key. -/
  | missingField
  /-- A number is too large for what it is to be. -/
  | tooLarge
  /-- The text does not fit into memory. -/
  | tooLong
  /-- NaN is to be made whole. -/
  | notNumber
  /-- The pattern ends within a directive. -/
  | incomplete
  /-- The pattern ends within a key. -/
  | incompleteKey
  /-- The digits of a width stand for too large a number. -/
  | tooWide
  /-- The digits of a precision stand for too large a number. -/
  | tooPrecise
  /-- A letter that stands for no conversion. -/
  | unsupported (letter : Char) (index : Nat)
  deriving DecidableEq

/-- A letter in a message: one outside of a range of ASCII is shown as a question mark. -/
def shownLetter (c : Char) : Char := if 31 ≤ c.toNat ∧ c.toNat < 126 then c else '?'

/-- The wording of a fault, where it has one. -/
def FillFault.message? : FillFault → Option String
  | .mismatch | .missingField | .tooLarge | .tooLong => none
  | .notNumber => some "cannot convert float NaN to integer"
  | .incomplete => some "incomplete format"
  | .incompleteKey => some "incomplete format key"
  | .tooWide => some "width too big"
  | .tooPrecise => some "precision too big"
  | .unsupported letter index =>
    some ("unsupported format character '" ++ String.singleton (shownLetter letter) ++ "' (0x" ++
      String.ofList (Nat.toDigits 16 letter.toNat) ++ ") at index " ++ toString index)

/-- The arguments of a pattern: the fields that keys look up, if the arguments are a single record,
and what the next directives without a key are to take. -/
structure Supply where
  fields : Option (List (String × Json))
  queue : List Json

/-- The arguments at the start. A record without fields is an argument like any other. -/
def Supply.ofArguments : List Json → Supply
  | [.obj (f :: rest)] => ⟨some (f :: rest), [.obj (f :: rest)]⟩
  | arguments => ⟨none, arguments⟩

/-- What is left of a pattern, and of its arguments. -/
structure Cursor where
  rest : List Char
  supply : Supply

/-- A step of filling a pattern. -/
abbrev Filling (α : Type) := StateT Cursor (Except FillFault) α

/-- Goes on with another rest of the pattern. -/
def goOn (rest : List Char) : Filling Unit := modify fun c ↦ { c with rest }

/-- Takes the next argument. -/
def takeArgument : Filling Json := do
  let c ← get
  match c.supply.queue with
  | [] => throw .mismatch
  | argument :: queue =>
    set { c with supply := { c.supply with queue } }
    pure argument

/-- Takes the next argument for a width or a precision, which is a whole number in a range. -/
def takeExtent (bound : Nat) : Filling Int := do
  let value ← match (← takeArgument) with
    | .num (.int value) => pure value
    | .bool value => pure (if value then 1 else 0)
    | _ => throw .mismatch
  if value < -(bound : Int) - 1 ∨ bound < value then throw .tooLarge
  pure value

/-- Reads a width or a precision, if there is one. -/
def readExtent (bound : Nat) (excess : FillFault) : Filling (Option Int) := do
  let c ← get
  match c.rest with
  | '*' :: rest =>
    goOn rest
    some <$> takeExtent bound
  | rest =>
    let digits := rest.takeWhile Char.isDigit
    goOn (rest.drop digits.length)
    if digits.isEmpty then pure none
    else if bound < Number.ofDigits digits then throw excess
    else pure (some (Number.ofDigits digits))

/-- The greatest width. -/
def maxWidth : Nat := Nat.pow 2 63 - 1

/-- The greatest precision. -/
def maxPrecision : Nat := Nat.pow 2 31 - 1

/-- Reads the precision, if there is one: the point alone stands for zero, as does a negative
number. -/
def readPrecision : Filling (Option Nat) := do
  match (← get).rest with
  | '.' :: rest =>
    goOn rest
    let precision ← readExtent maxPrecision .tooPrecise
    pure (some (precision.getD 0).toNat)
  | _ => pure none

/-- The characters of a key up to its closing parenthesis, and the rest of the pattern. Within a
key parentheses come in pairs; `depth` counts the open ones. -/
def splitKey : (depth : Nat) → List Char → Option (List Char × List Char)
  | _, [] => none
  | depth, c :: rest =>
    if c = ')' then
      match depth with
      | 0 => some ([], rest)
      | depth + 1 => (splitKey depth rest).map fun (key, rest) ↦ (c :: key, rest)
    else
      (splitKey (if c = '(' then depth + 1 else depth) rest).map fun (key, rest) ↦ (c :: key, rest)

/-- Reads a key, if there is one, and makes its field the next argument. -/
def readKey : Filling Unit := do
  let c ← get
  match c.rest with
  | '(' :: rest =>
    match c.supply.fields, splitKey 0 rest with
    | none, _ => throw .mismatch
    | some _, none => throw .incompleteKey
    | some fields, some (key, rest) =>
      match Json.field? fields (String.ofList key) with
      | none => throw .missingField
      | some value => set { rest, supply := ⟨some fields, [value]⟩ : Cursor }
  | _ => pure ()

/-- A directive that has been read: how its argument is to be written. -/
structure Directive where
  flags : List Char
  width : Nat
  precision : Option Nat
  conversion : Char
  deriving DecidableEq

/-- The flags: to the left, with a sign, with a blank for a sign, in full, filled with zeros. -/
def flagMarks : List Char := ['-', '+', ' ', '#', '0']

/-- Whether a directive has a flag. -/
def Directive.has (d : Directive) (flag : Char) : Bool := d.flags.contains flag

/-- A letter for a size. -/
def isSizeMark (c : Char) : Bool := c = 'h' || c = 'l' || c = 'L'

/-- Reads the letter of the conversion, after a letter for a size if there is one. -/
def readConversion : Filling Char := do
  let rest := (← get).rest
  let rest := if rest.head?.any isSizeMark then rest.drop 1 else rest
  match rest with
  | [] => throw .incomplete
  | c :: rest =>
    goOn rest
    pure c

/-- Reads a directive after its percent sign. A negative width asks for the left. -/
def readDirective : Filling Directive := do
  readKey
  let rest := (← get).rest
  let flags := rest.takeWhile flagMarks.contains
  goOn (rest.drop flags.length)
  let width := ((← readExtent maxWidth .tooWide)).getD 0
  let precision ← readPrecision
  let conversion ← readConversion
  pure ⟨if width < 0 then '-' :: flags else flags, width.natAbs, precision, conversion⟩

end TenantBroker.Log
