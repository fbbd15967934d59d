import TenantBroker.Json

/-!
# Calendar

A time is a number of seconds since the start of 1970. The Gregorian calendar is used for all
times. Years are counted from the first of March, so that the leap day comes last: 400 years have
146097 days, and the months of such a year start at the days `(153 * m + 2) / 5`.

A time is a word of 64 bits. Its year, counted from 1900, has to fit into a word of 32 bits, and
can be shown only if the year itself does so too.
-/

namespace TenantBroker.Log

/-- A date. -/
structure Date where
  year : Int
  month : Nat
  day : Nat
  deriving DecidableEq

/-- The date of a day, given as the number of days since the start of 1970. -/
def Date.ofDays (days : Int) : Date :=
  let shifted := days + 719468
  let era := Int.fdiv shifted 146097
  let dayOfEra := (shifted - era * 146097).toNat
  let yearOfEra :=
    (dayOfEra - dayOfEra / 1460 + dayOfEra / 36524 - dayOfEra / 146096) / 365
  let dayOfYear := dayOfEra - (365 * yearOfEra + yearOfEra / 4 - yearOfEra / 100)
  let month := (5 * dayOfYear + 2) / 153
  let year : Int := yearOfEra + era * 400
  { year := if month < 10 then year else year + 1
    month := if month < 10 then month + 3 else month - 9
    day := dayOfYear - (153 * month + 2) / 5 + 1 }

/-- Why a time cannot be shown. -/
inductive TimeFault where
  /-- The time is no number. -/
  | wrongType
  /-- The time is NaN. -/
  | notNumber
  /-- The time is no word of 64 bits, or its year cannot be shown. -/
  | tooLarge
  /-- The calendar does not reach that far. -/
  | beyondCalendar
  deriving DecidableEq

/-- The wording of a fault, where it has one. -/
def TimeFault.message? : TimeFault → Option String
  | .notNumber => some "Invalid value NaN (not a number)"
  | .wrongType | .tooLarge | .beyondCalendar => none

/-- A floating-point number without its fraction, downwards. -/
def floor? : Binary64 → Option Int
  | .finite negative significand exponent =>
    let x : Binary64 := .finite negative significand exponent
    x.toInt?.map fun whole ↦ if x.isNegative && !x.isWhole then whole - 1 else whole
  | _ => none

/-- The whole seconds of a time. -/
def secondsOf : Json → Except TimeFault Int
  | .bool value => .ok (if value then 1 else 0)
  | .num (.int value) => .ok value
  | .num (.real .nan) => .error .notNumber
  | .num (.real x) =>
    match floor? x with
    | some value => .ok value
    | none => .error .tooLarge
  | _ => .error .wrongType

/-- A number in at least two digits. -/
def twoDigits (n : Nat) : String := (if n < 10 then "0" else "") ++ toString n

/-- The text of a time: date and time of day to the second. -/
def timeText (seconds : Int) : String :=
  let days := Int.fdiv seconds 86400
  let date := Date.ofDays days
  let rest := (seconds - days * 86400).toNat
  toString date.year ++ "-" ++ twoDigits date.month ++ "-" ++ twoDigits date.day ++ " " ++
    twoDigits (rest / 3600) ++ ":" ++ twoDigits (rest / 60 % 60) ++ ":" ++ twoDigits (rest % 60)

/-- Checks that a time can be shown. -/
def checkTime (seconds : Int) : Except TimeFault Unit :=
  let year := (Date.ofDays (Int.fdiv seconds 86400)).year
  if seconds < -(Int.pow 2 63) ∨ Int.pow 2 63 ≤ seconds then .error .tooLarge
  else if year - 1900 < -(Int.pow 2 31) ∨ Int.pow 2 31 ≤ year - 1900 then .error .beyondCalendar
  else if Int.pow 2 31 ≤ year then .error .tooLarge
  else .ok ()

/-- The text of a time given as a number of seconds. -/
def showTime (time : Json) : Except TimeFault String := do
  let seconds ← secondsOf time
  checkTime seconds
  pure (timeText seconds)

end TenantBroker.Log
