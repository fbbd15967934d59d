import TenantBroker.Number.Binary64

/-!
# Shortest decimal text of a floating-point number

The text of a finite number has the fewest decimal digits that read back as that number; of two
such decimals the nearer one is taken, at a tie the even one. Magnitudes whose leading digit stands
for 10^-4 to 10^15 are written with a point, all others with an exponent.
-/

namespace TenantBroker.Binary64

/-- The decimal number `digits * 10 ^ exponent`. -/
structure Decimal where
  digits : Nat
  exponent : Int
  deriving DecidableEq

/-- The number nearest to a decimal. -/
def Decimal.nearest (d : Decimal) : Binary64 := ofDecimal false d.digits d.exponent

/-- The magnitude `significand * 2 ^ exponent` as a ratio. -/
def ratio (significand : Nat) (exponent : Int) : Nat × Nat :=
  if 0 ≤ exponent then (significand * Nat.pow 2 exponent.toNat, 1)
  else (significand, Nat.pow 2 (-exponent).toNat)

/-- A magnitude divided by a power of ten, as a ratio. -/
def gridRatio (significand : Nat) (exponent grid : Int) : Nat × Nat :=
  let (num, den) := ratio significand exponent
  if 0 ≤ grid then (num, den * Nat.pow 10 grid.toNat) else (num * Nat.pow 10 (-grid).toNat, den)

/-- The power of ten for which the leading digit of a positive magnitude stands. Every magnitude is
at least 10^-324, so its product with 10^400 has a digit before the point. -/
def leadingPower (significand : Nat) (exponent : Int) : Int :=
  let (num, den) := gridRatio significand exponent (-400)
  ((Nat.toDigits 10 (num / den)).length : Int) - 401

/-- The decimals of the grid of multiples of 10^`grid` beside a magnitude, the nearer one first and
of two equally near ones that with the even last digit. -/
def neighbours (significand : Nat) (exponent grid : Int) : List Decimal :=
  let (num, den) := gridRatio significand exponent grid
  let below : Decimal := ⟨num / den, grid⟩
  let above : Decimal := ⟨num / den + 1, grid⟩
  if roundRatio num den = num / den then [below, above] else [above, below]

/-- The first decimal beside a magnitude that reads back, on the grid of `count` digits or on a
finer one up to 17 digits. -/
def searchDecimal (significand : Nat) (exponent leading : Int) :
    (count : Nat) → (left : Nat) → Option Decimal
  | _, 0 => none
  | count, left + 1 =>
    let found := (neighbours significand exponent (leading + 1 - count)).find? fun d ↦
      d.nearest = .finite false significand exponent
    match found with
    | some d => some d
    | none => searchDecimal significand exponent leading (count + 1) left

/-- All digits of a magnitude. -/
def exactDecimal (significand : Nat) (exponent : Int) : Decimal :=
  if 0 ≤ exponent then ⟨significand * Nat.pow 2 exponent.toNat, 0⟩
  else ⟨significand * Nat.pow 5 (-exponent).toNat, exponent⟩

/-- The decimal of fewest digits that reads back as a magnitude. -/
def shortestDecimal (significand : Nat) (exponent : Int) : Decimal :=
  if significand = 0 then ⟨0, 0⟩
  else
    (searchDecimal significand exponent (leadingPower significand exponent) 1 17).getD
      (exactDecimal significand exponent)

/-- The digits of a decimal without zeros at the end, and the place of the point: the number of
digits before it, negative if zeros follow the point first. -/
def Decimal.significantDigits (d : Decimal) : List Char × Int :=
  let all := Nat.toDigits 10 d.digits
  let kept := (all.reverse.dropWhile (· = '0')).reverse
  if kept = [] then (['0'], 1) else (kept, all.length + d.exponent)

/-- Digits with a point after the first `point` of them. -/
def positional (digits : List Char) (point : Int) : List Char :=
  if point ≤ 0 then ['0', '.'] ++ List.replicate (-point).toNat '0' ++ digits
  else if digits.length ≤ point.toNat then
    digits ++ List.replicate (point.toNat - digits.length) '0' ++ ['.', '0']
  else digits.take point.toNat ++ '.' :: digits.drop point.toNat

/-- Digits with an exponent of at least two digits. -/
def scientific (digits : List Char) (power : Int) : List Char :=
  let mantissa := match digits with
    | [d] => [d]
    | d :: rest => d :: '.' :: rest
    | [] => []
  let size := Nat.toDigits 10 power.natAbs
  let padded := if size.length < 2 then '0' :: size else size
  mantissa ++ 'e' :: (if power < 0 then '-' else '+') :: padded

/-- The text of a magnitude. -/
def magnitudeText (significand : Nat) (exponent : Int) : List Char :=
  let (digits, point) := (shortestDecimal significand exponent).significantDigits
  if -4 ≤ point - 1 ∧ point - 1 < 16 then positional digits point
  else scientific digits (point - 1)

/-- The text of a number. -/
def text : Binary64 → String
  | .nan => "nan"
  | .infinite negative => if negative then "-inf" else "inf"
  | .finite negative significand exponent =>
    String.ofList ((if negative then ['-'] else []) ++ magnitudeText significand exponent)

end TenantBroker.Binary64
