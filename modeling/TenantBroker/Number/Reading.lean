import TenantBroker.Number.Binary64
import TenantBroker.Text.Blank
import TenantBroker.Text.Digit

/-!
# Numbers read from text

A setting that stands for a number may have blanks around it, a sign, digits of any script, and
single underscores between digits. Whole numbers are limited to 4300 digits. Floating-point numbers
may have a point, an exponent, or be one of the words for infinity and NaN. A whole number in an
argument has ASCII digits, but may have a fraction of zero.
-/

namespace TenantBroker.Number

/-- A character of a number in its ASCII form: blanks become spaces and digits of any script become
ASCII digits. What is neither cannot be part of a number. -/
def plainChar (c : Char) : Char :=
  if c.toNat < 0x7F then c
  else if Text.isBlank c then ' '
  else
    match Text.digitValue? c with
    | some value => Nat.digitChar value
    | none => '?'

/-- The text of a number in its ASCII form, without blanks at either end. -/
def plainText (s : String) : List Char :=
  Text.trimBoth Text.isPlainBlank (s.toList.map plainChar)

/-- The text without its underscores; none if one of them does not stand between digits. -/
def withoutUnderscores (before : Option Char) : List Char → Option (List Char)
  | [] => some []
  | c :: rest =>
    if c = '_' then
      if before.any Char.isDigit && rest.head?.any Char.isDigit then
        withoutUnderscores (some c) rest
      else none
    else (withoutUnderscores (some c) rest).map (c :: ·)

/-- The number that decimal digits spell. -/
def ofDigits (cs : List Char) : Nat := cs.foldl (fun value c ↦ value * 10 + (c.toNat - 48)) 0

/-- A sign at the start of a text, and the rest. -/
def splitSign : List Char → Bool × List Char
  | '-' :: rest => (true, rest)
  | '+' :: rest => (false, rest)
  | cs => (false, cs)

/-- The greatest number of digits that a whole number may have. -/
def maxDigits : Nat := 4300

/-- Reads a whole number. -/
def readInt? (s : String) : Option Int := do
  let cs ← withoutUnderscores none (plainText s)
  let (negative, digits) := splitSign cs
  if digits.isEmpty || !digits.all Char.isDigit || maxDigits < digits.length then none
  else if negative then some (-(ofDigits digits)) else some (ofDigits digits)

/-- The digits of a whole number without the zeros in front, among which any underscores may stand;
none if it does not start with a digit, or if nothing but an underscore is left. -/
def withoutZeros? (cs : List Char) : Option (List Char) :=
  match cs with
  | '0' :: _ =>
    let rest := cs.dropWhile fun c ↦ c = '0' || c = '_'
    if rest.isEmpty then (if cs.getLast? = some '0' then some ['0'] else none) else some rest
  | c :: _ => if c.isDigit then some cs else none
  | [] => none

/-- The whole part of a number whose fraction, if it has one, is zero. -/
def wholePart? (cs : List Char) : Option (List Char) :=
  match cs.dropWhile (· ≠ '.') with
  | [] => some cs
  | _ :: fraction =>
    if fraction.isEmpty || !fraction.all (· = '0') then none else some (cs.takeWhile (· ≠ '.'))

/-- Reads a whole number of ASCII digits that may have a fraction of zero. Zeros in front do not
count towards the greatest number of digits. -/
def readWhole? (s : String) : Option Int := do
  let (negative, cs) := splitSign (Text.trimBoth Text.isWhite s.toList)
  let whole ← withoutZeros? (← wholePart? cs)
  let digits ← withoutUnderscores none whole
  if digits.isEmpty || !digits.all Char.isDigit || maxDigits < digits.length then none
  else if negative then some (-(ofDigits digits)) else some (ofDigits digits)

/-- The exponent part of a number: nothing, or the letter, a sign and digits. -/
def readExponent? : List Char → Option Int
  | [] => some 0
  | c :: rest =>
    let (negative, digits) := splitSign rest
    if (c != 'e' && c != 'E') || digits.isEmpty || !digits.all Char.isDigit then none
    else if negative then some (-(ofDigits digits)) else some (ofDigits digits)

/-- The digits before and after the point of a number, and what follows them. -/
def splitPoint (cs : List Char) : List Char × List Char × List Char :=
  let whole := cs.takeWhile Char.isDigit
  match cs.dropWhile Char.isDigit with
  | '.' :: rest => (whole, rest.takeWhile Char.isDigit, rest.dropWhile Char.isDigit)
  | rest => (whole, [], rest)

/-- A magnitude in decimal notation. -/
def readMagnitude? (negative : Bool) (cs : List Char) : Option Binary64 := do
  let (whole, fraction, rest) := splitPoint cs
  if whole.isEmpty && fraction.isEmpty then none
  else
    let exponent ← readExponent? rest
    some (Binary64.ofDecimal negative (ofDigits (whole ++ fraction)) (exponent - fraction.length))

/-- Reads a floating-point number. -/
def readReal? (s : String) : Option Binary64 := do
  let cs ← withoutUnderscores none (plainText s)
  let (negative, magnitude) := splitSign cs
  let word := String.ofList (magnitude.map Char.toLower)
  if word = "inf" ∨ word = "infinity" then some (.infinite negative)
  else if word = "nan" then some .nan
  else readMagnitude? negative magnitude

end TenantBroker.Number
