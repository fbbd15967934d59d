/-!
# Binary floating-point numbers of 64 bits

A finite number is a sign, a significand below 2^53 and an exponent from -1074 to 971; its
magnitude is `significand * 2 ^ exponent`. The significand is at least 2^52 unless the exponent is
the least one, so every magnitude has one form. `ofRatio` rounds a ratio to the nearest number, a
tie to the even significand, and goes to infinity past the largest number.
-/

namespace TenantBroker

/-- A floating-point number. -/
inductive Binary64 where
  | nan
  | infinite (negative : Bool)
  | finite (negative : Bool) (significand : Nat) (exponent : Int)
  deriving DecidableEq

namespace Binary64

/-- The least exponent. -/
def minExponent : Int := -1074

/-- The greatest exponent. -/
def maxExponent : Int := 971

/-- The form of a finite number. -/
def Canonical (significand : Nat) (exponent : Int) : Prop :=
  significand < Nat.pow 2 53 ∧ minExponent ≤ exponent ∧ exponent ≤ maxExponent ∧
    (Nat.pow 2 52 ≤ significand ∨ exponent = minExponent)

/-- Zero with a sign. -/
def zeroOf (negative : Bool) : Binary64 := .finite negative 0 minExponent

/-- Positive zero. -/
def zero : Binary64 := zeroOf false

/-- A ratio rounded to a whole number, a tie to the even one. -/
def roundRatio (num den : Nat) : Nat :=
  let whole := num / den
  let twice := 2 * (num % den)
  if den < twice ∨ (den = twice ∧ whole % 2 = 1) then whole + 1 else whole

/-- The ratio `num / (den * 2 ^ exponent)` as a pair. -/
def scaleDown (num den : Nat) (exponent : Int) : Nat × Nat :=
  if 0 ≤ exponent then (num, den * Nat.pow 2 exponent.toNat)
  else (num * Nat.pow 2 (-exponent).toNat, den)

/-- The exponent at which the whole part of a positive ratio has 53 binary digits, or the least
exponent if that is greater. -/
def exponentFor (num den : Nat) : Int :=
  let guess : Int := (num.log2 : Int) - den.log2 - 53
  let (a, b) := scaleDown num den guess
  max minExponent (if Nat.pow 2 53 ≤ a / b then guess + 1 else guess)

/-- A significand of at most 2^53 at an exponent, brought into form. -/
def normalize (negative : Bool) (significand : Nat) (exponent : Int) : Binary64 :=
  if significand = Nat.pow 2 53 then
    if maxExponent < exponent + 1 then .infinite negative
    else .finite negative (Nat.pow 2 52) (exponent + 1)
  else if maxExponent < exponent then .infinite negative
  else .finite negative significand exponent

/-- The number nearest to a ratio. -/
def ofRatio (negative : Bool) (num den : Nat) : Binary64 :=
  if num = 0 then zeroOf negative
  else
    let exponent := exponentFor num den
    let (a, b) := scaleDown num den exponent
    normalize negative (roundRatio a b) exponent

/-- The number nearest to `digits * 10 ^ exponent`. Exponents far out of range are settled by the
length of the digits alone. -/
def ofDecimal (negative : Bool) (digits : Nat) (exponent : Int) : Binary64 :=
  if digits = 0 then zeroOf negative
  else
    let width : Int := (Nat.toDigits 10 digits).length
    if 310 < width + exponent then .infinite negative
    else if width + exponent < -330 then zeroOf negative
    else if 0 ≤ exponent then ofRatio negative (digits * Nat.pow 10 exponent.toNat) 1
    else ofRatio negative digits (Nat.pow 10 (-exponent).toNat)

/-- The number nearest to a natural number. -/
def ofNat (n : Nat) : Binary64 := ofRatio false n 1

/-- Strictly below zero. -/
def isNegative : Binary64 → Bool
  | .finite negative significand _ => negative && significand != 0
  | .infinite negative => negative
  | .nan => false

/-- At most zero, either zero included. -/
def isNonpositive : Binary64 → Bool
  | .finite negative significand _ => negative || significand == 0
  | .infinite negative => negative
  | .nan => false

/-- A finite number. -/
def isFinite : Binary64 → Bool
  | .finite _ _ _ => true
  | _ => false

/-- The magnitude `significand * 2 ^ exponent` without its fraction. -/
def wholePart (significand : Nat) (exponent : Int) : Nat :=
  if 0 ≤ exponent then significand * Nat.pow 2 exponent.toNat
  else significand / Nat.pow 2 (-exponent).toNat

/-- A finite number without its fraction. -/
def toInt? : Binary64 → Option Int
  | .finite negative significand exponent =>
    some (if negative then -(wholePart significand exponent) else wholePart significand exponent)
  | _ => none

/-- A finite number without a fraction. -/
def isWhole : Binary64 → Bool
  | .finite _ significand exponent =>
    0 ≤ exponent || significand % Nat.pow 2 (-exponent).toNat == 0
  | _ => false

/-- Whether the magnitude `significand * 2 ^ exponent` exceeds a natural number. -/
def exceeds (significand : Nat) (exponent : Int) (bound : Nat) : Bool :=
  if 0 ≤ exponent then bound < significand * Nat.pow 2 exponent.toNat
  else bound * Nat.pow 2 (-exponent).toNat < significand

/-- A finite magnitude times a power of two. -/
def scaleUp (significand : Nat) (exponent : Int) (power : Nat) : Binary64 :=
  let exponent := exponent + power
  if 0 ≤ exponent then ofRatio false (significand * Nat.pow 2 exponent.toNat) 1
  else ofRatio false significand (Nat.pow 2 (-exponent).toNat)

end Binary64

end TenantBroker
