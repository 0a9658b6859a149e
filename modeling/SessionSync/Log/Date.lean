/-!
# Days

The day of a point in time, by the calendar: a year that is divisible by four has a day more, unless
it is divisible by a hundred and not by four hundred.
-/

namespace SessionSync.Log

/-- Whether a year has a day more. -/
def isLeapYear (year : Nat) : Bool :=
  year % 4 = 0 && (year % 100 ≠ 0 || year % 400 = 0)

/-- The days of a year. -/
def daysOfYear (year : Nat) : Nat :=
  if isLeapYear year then 366 else 365

/-- The days of the months of a year. -/
def daysOfMonths (year : Nat) : List Nat :=
  [31, if isLeapYear year then 29 else 28, 31, 30, 31, 30, 31, 31, 30, 31, 30, 31]

/-- The month and the day within it of a day of a year, all counted from one but the last. -/
def monthAndDay (month : Nat) : List Nat → Nat → Nat × Nat
  | [], day => (month, day + 1)
  | length :: rest, day =>
    if day < length then (month, day + 1) else monthAndDay (month + 1) rest (day - length)

/-- The year in which a day lies that is counted from the start of a year, and its place in that
year. -/
def yearAndDay (year day : Nat) : Nat × Nat :=
  if day < daysOfYear year then (year, day) else yearAndDay (year + 1) (day - daysOfYear year)
termination_by day
decreasing_by
  have : 0 < daysOfYear year := by unfold daysOfYear; split <;> decide
  omega

/-- A number with at least so many digits. -/
def padded (width n : Nat) : String :=
  let digits := Nat.toDigits 10 n
  String.ofList (List.replicate (width - digits.length) '0' ++ digits)

/-- The day of a number of seconds since the start of 1970, as year, month and day. -/
def dateOf (seconds : Nat) : String :=
  let (year, day) := yearAndDay 1970 (seconds / 86400)
  let (month, day) := monthAndDay 1 (daysOfMonths year) day
  padded 4 year ++ "-" ++ padded 2 month ++ "-" ++ padded 2 day

end SessionSync.Log
