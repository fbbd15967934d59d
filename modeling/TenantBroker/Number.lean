import TenantBroker.Number.Shortest

/-!
# Numbers

A number is whole, of any size, or a floating-point number; the two stay apart even where they have
the same value, because they are written differently.
-/

namespace TenantBroker

/-- A number of a record. -/
inductive Number where
  | int (value : Int)
  | real (value : Binary64)
  deriving DecidableEq

/-- The text of a number. -/
def Number.text : Number → String
  | .int value => toString value
  | .real value => value.text

/-- A number other than zero. NaN is not zero. -/
def Number.isNonzero : Number → Bool
  | .int value => value != 0
  | .real (.finite _ significand _) => significand != 0
  | .real _ => true

/-- A finite number as a ratio. -/
def Number.ratio? : Number → Option (Int × Nat)
  | .int value => some (value, 1)
  | .real (.finite negative significand exponent) =>
    let (num, den) := Binary64.ratio significand exponent
    some (if negative then -(num : Int) else num, den)
  | .real _ => none

/-- Whether a number is less than another one. NaN is neither less nor greater. -/
def Number.lt (a b : Number) : Bool :=
  match a.ratio?, b.ratio? with
  | some (num, den), some (num', den') => num * den' < num' * den
  | some _, none => b = .real (.infinite false)
  | none, some _ => a = .real (.infinite true)
  | none, none => a = .real (.infinite true) && b = .real (.infinite false)

/-- The whole number that a number is, if it is one. -/
def Number.wholeValue? : Number → Option Int
  | .int value => some value
  | .real x => if x.isWhole then x.toInt? else none

/-- A number in the form in which equal values are equal: whole wherever it can be. -/
def Number.canonical (n : Number) : Number :=
  match n.wholeValue? with
  | some value => .int value
  | none => n

end TenantBroker
