import TenantBroker.Json.Shown
import TenantBroker.Log.Directive
import TenantBroker.Number.Rounded

/-!
# Conversions

A conversion writes an argument as a directive asks for: as a text, as a whole number in one of
three bases, as a real number in one of three forms, or as one character. A number has a sign, a
marker for its base, and a body; zeros that fill it up to the width stand between the marker and
the body, blanks stand around it all. The precision cuts a text off, is the least number of digits
of a whole number, and the number of places or of significant digits of a real one.
-/

namespace TenantBroker.Log

/-- A converted argument in its parts. -/
structure Piece where
  sign : List Char := []
  marker : List Char := []
  body : List Char
  numeric : Bool := false

/-- The longest text that is held in memory. -/
def maxText : Nat := Nat.pow 2 30

/-- A number of characters, if they can be held in memory. -/
def checkLength (n : Nat) : Except FillFault Unit :=
  if maxText < n then .error .tooLong else .ok ()

/-- A piece filled up to the width of a directive. -/
def Directive.lay (d : Directive) (p : Piece) : List Char :=
  let front := p.sign ++ p.marker
  let room := d.width - (front.length + p.body.length)
  if d.has '-' then front ++ p.body ++ List.replicate room ' '
  else if d.has '0' && p.numeric then front ++ List.replicate room '0' ++ p.body
  else List.replicate room ' ' ++ front ++ p.body

/-- The sign of a number. -/
def Directive.signOf (d : Directive) (negative : Bool) : List Char :=
  if negative then ['-'] else if d.has '+' then ['+'] else if d.has ' ' then [' '] else []

/-- A text. -/
def Directive.ofText (d : Directive) (text : String) : Piece :=
  match d.precision with
  | none => { body := text.toList }
  | some count => { body := text.toList.take count }

/-- An argument as a whole number; a fraction is dropped. -/
def wholeOf : Json → Except FillFault Int
  | .bool value => .ok (if value then 1 else 0)
  | .num (.int value) => .ok value
  | .num (.real .nan) => .error .notNumber
  | .num (.real x) =>
    match x.toInt? with
    | some value => .ok value
    | none => .error .tooLarge
  | _ => .error .mismatch

/-- An argument that is a whole number. -/
def integerOf : Json → Except FillFault Int
  | .num (.real _) => .error .mismatch
  | argument => wholeOf argument

/-- A whole number in a base; its marker is the letter of the conversion. -/
def Directive.ofInteger (d : Directive) (base : Nat) (value : Int) : Except FillFault Piece := do
  let least := d.precision.getD 0
  if maxPrecision - 3 < least then throw .tooLarge
  checkLength least
  let digits := Binary64.zeroFilled least (Nat.toDigits base value.natAbs)
  pure {
    sign := d.signOf (value < 0)
    marker := if d.has '#' && base != 10 then ['0', d.conversion] else []
    body := if d.conversion = 'X' then digits.map Char.toUpper else digits
    numeric := true }

/-- An argument as a real number. -/
def realOf : Json → Except FillFault Binary64
  | .bool value => .ok (.ofNat (if value then 1 else 0))
  | .num (.int value) =>
    match Binary64.ofRatio (value < 0) value.natAbs 1 with
    | .infinite _ => .error .tooLarge
    | x => .ok x
  | .num (.real x) => .ok x
  | _ => .error .mismatch

/-- The form of a real number: with places, with an exponent, or the shorter of the two. -/
inductive RealForm where
  | fixed
  | exponential
  | general
  deriving DecidableEq

/-- The precision unless another one is given. -/
def usualPrecision : Nat := 6

/-- A magnitude in a form. -/
def magnitudeBody (form : RealForm) (full : Bool) (precision significand : Nat) (exponent : Int) :
    Except FillFault (List Char) :=
  match form with
  | .fixed =>
    (checkLength precision).map fun _ ↦ Binary64.fixedText full precision significand exponent
  | .exponential =>
    (checkLength precision).map fun _ ↦ Binary64.exponentialText full precision significand exponent
  | .general =>
    (checkLength (if full then precision else 0)).map fun _ ↦
      Binary64.generalText full (max 1 precision) significand exponent

/-- A real number. NaN has no sign of its own. -/
def Directive.ofReal (d : Directive) (form : RealForm) (x : Binary64) : Except FillFault Piece := do
  let (negative, body) ← match x with
    | .nan => pure (false, "nan".toList)
    | .infinite negative => pure (negative, "inf".toList)
    | .finite negative significand exponent =>
      (magnitudeBody form (d.has '#') (d.precision.getD usualPrecision) significand exponent).map
        (negative, ·)
  pure {
    sign := d.signOf negative
    body := if d.conversion.isUpper then body.map Char.toUpper else body
    numeric := true }

/-- An argument as one character: a text of one, or the number of one. -/
def characterOf : Json → Except FillFault Char
  | .str text =>
    match text.toList with
    | [c] => .ok c
    | _ => .error .mismatch
  | argument =>
    (integerOf argument).bind fun value ↦
      if value < 0 ∨ 0x110000 ≤ value then .error .tooLarge else .ok (Char.ofNat value.toNat)

/-- The piece that an argument is converted into. `index` is that of the letter. -/
def Directive.piece (d : Directive) (index : Nat) (argument : Json) : Except FillFault Piece :=
  match d.conversion with
  | 's' => .ok (d.ofText argument.shown)
  | 'r' => .ok (d.ofText argument.quoted)
  | 'a' => .ok (d.ofText (Text.escapedToAscii argument.quoted))
  | 'd' | 'i' | 'u' => (wholeOf argument).bind (d.ofInteger 10)
  | 'o' => (integerOf argument).bind (d.ofInteger 8)
  | 'x' | 'X' => (integerOf argument).bind (d.ofInteger 16)
  | 'e' | 'E' => (realOf argument).bind (d.ofReal .exponential)
  | 'f' | 'F' => (realOf argument).bind (d.ofReal .fixed)
  | 'g' | 'G' => (realOf argument).bind (d.ofReal .general)
  | 'c' => (characterOf argument).map fun c ↦ { body := [c] }
  | letter => .error (.unsupported letter index)

/-- An argument as a directive asks for it. -/
def Directive.convert (d : Directive) (index : Nat) (argument : Json) :
    Except FillFault (List Char) := do
  let piece ← d.piece index argument
  checkLength d.width
  pure (d.lay piece)

end TenantBroker.Log
