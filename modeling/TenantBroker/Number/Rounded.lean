import TenantBroker.Number.Shortest

/-!
# Decimal text with a given number of digits

A finite magnitude is written with a number of places after the point, or with a number of
significant digits and an exponent, or in the shorter of these two forms. The decimal is the nearest
one with that many digits, a tie goes to the even last digit. A point that no digit follows is kept
only if the text is asked to be full; the shorter form drops zeros at its end unless it is.
-/

namespace TenantBroker.Binary64

/-- Digits filled up with zeros at the front. -/
def zeroFilled (width : Nat) (digits : List Char) : List Char :=
  List.replicate (width - digits.length) '0' ++ digits

/-- Digits with a point before the last `places` of them. -/
def withPoint (full : Bool) (places : Nat) (digits : List Char) : List Char :=
  let whole := digits.length - places
  digits.take whole ++
    if places = 0 then (if full then ['.'] else []) else '.' :: digits.drop whole

/-- A magnitude as a multiple of `10 ^ grid`. -/
def onGrid (significand : Nat) (exponent grid : Int) : Nat :=
  let (num, den) := gridRatio significand exponent grid
  roundRatio num den

/-- A magnitude with a number of places after the point. -/
def fixedText (full : Bool) (places significand : Nat) (exponent : Int) : List Char :=
  withPoint full places
    (zeroFilled (places + 1) (Nat.toDigits 10 (onGrid significand exponent (-places))))

/-- A number of significant digits of a magnitude, and the power of ten of the first one. -/
def significantDigits (count significand : Nat) (exponent : Int) : List Char × Int :=
  if significand = 0 then (List.replicate count '0', 0)
  else
    let power := leadingPower significand exponent
    let digits := Nat.toDigits 10 (onGrid significand exponent (power + 1 - count))
    if count < digits.length then (digits.take count, power + 1) else (digits, power)

/-- An exponent: the letter, a sign and at least two digits. -/
def exponentText (power : Int) : List Char :=
  'e' :: (if power < 0 then '-' else '+') :: zeroFilled 2 (Nat.toDigits 10 power.natAbs)

/-- A magnitude with one digit before the point, a number of places after it, and an exponent. -/
def exponentialText (full : Bool) (places significand : Nat) (exponent : Int) : List Char :=
  let (digits, power) := significantDigits (places + 1) significand exponent
  withPoint full places digits ++ exponentText power

/-- A text with a point without the zeros at its end, and without the point if it then ends there.
-/
def withoutZeros (cs : List Char) : List Char :=
  if '.' ∈ cs then
    let kept := cs.reverse.dropWhile (· = '0')
    (if kept.head? = some '.' then kept.drop 1 else kept).reverse
  else cs

/-- More significant digits than any magnitude has. -/
def enoughDigits : Nat := 1100

/-- A magnitude with a number of significant digits: with an exponent if the first digit stands for
less than 10^-4 or the last one for more than 1, with the point in its place otherwise. -/
def generalText (full : Bool) (count significand : Nat) (exponent : Int) : List Char :=
  let needed := if full then count else min count enoughDigits
  let (digits, power) := significantDigits needed significand exponent
  let drop := if full then id else withoutZeros
  if power < -4 ∨ (count : Int) ≤ power then
    drop (withPoint full (needed - 1) digits) ++ exponentText power
  else
    let places := ((needed : Int) - 1 - power).toNat
    drop (withPoint full places (zeroFilled (places + 1) digits))

end TenantBroker.Binary64
