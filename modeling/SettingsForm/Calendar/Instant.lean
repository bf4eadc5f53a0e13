/-!
# Instants and calendar dates

An instant is a second of the UTC time scale, counted from the start of 1970, and a fraction of it in
nanoseconds. A fraction of a billion or more lies in a leap second, which follows the second that it
is counted in. Dates are those of the Gregorian calendar, carried on before its introduction.
-/

namespace SettingsForm

/-- Nanoseconds in a second. -/
def nanosPerSecond : Nat := 1000000000

/-- Seconds in a day. -/
def secondsPerDay : Int := 86400

/-- A point in time, to the nanosecond. -/
structure Instant where
  second : Int
  nano : Nat
  deriving Repr, DecidableEq, Inhabited

namespace Instant

/-- The instant is earlier than another or the same. -/
def notAfter (a b : Instant) : Bool :=
  a.second < b.second || (a.second == b.second && a.nano ≤ b.nano)

/-- The instant some days later; a leap second is left on the way. -/
def addDays (t : Instant) (days : Nat) : Instant :=
  { second := t.second + days * secondsPerDay
    nano := if 0 < days ∧ nanosPerSecond ≤ t.nano then t.nano - nanosPerSecond else t.nano }

end Instant

/-- A day of the calendar. -/
structure Date where
  year : Int
  month : Nat
  day : Nat
  deriving Repr, DecidableEq, Inhabited

namespace Date

def isLeapYear (year : Int) : Bool := (year % 4 == 0 && year % 100 != 0) || year % 400 == 0

def daysInMonth (year : Int) (month : Nat) : Nat :=
  if month = 2 then (if isLeapYear year then 29 else 28)
  else if month = 4 ∨ month = 6 ∨ month = 9 ∨ month = 11 then 30
  else 31

/-- The years that dates can have. -/
def inRange (year : Int) : Bool := -262143 ≤ year && year ≤ 262142

/-- The date exists. -/
def isValid (d : Date) : Bool :=
  inRange d.year && 1 ≤ d.month && d.month ≤ 12 && 1 ≤ d.day && d.day ≤ daysInMonth d.year d.month

/-- Days from the start of 1970 to the start of a date. Years are counted from March, so that a leap
day is the last of its year, and in eras of 400 years. -/
def toDays (d : Date) : Int :=
  let year := if d.month ≤ 2 then d.year - 1 else d.year
  let yearOfEra := year % 400
  let monthFromMarch : Int := (d.month + 9) % 12
  let dayOfYear := (153 * monthFromMarch + 2) / 5 + d.day - 1
  let dayOfEra := yearOfEra * 365 + yearOfEra / 4 - yearOfEra / 100 + dayOfYear
  year / 400 * 146097 + dayOfEra - 719468

/-- The date that begins some days after the start of 1970. -/
def ofDays (days : Int) : Date :=
  let shifted := days + 719468
  let dayOfEra := shifted % 146097
  let yearOfEra := (dayOfEra - dayOfEra / 1460 + dayOfEra / 36524 - dayOfEra / 146096) / 365
  let dayOfYear := dayOfEra - (365 * yearOfEra + yearOfEra / 4 - yearOfEra / 100)
  let monthFromMarch := (5 * dayOfYear + 2) / 153
  let day := dayOfYear - (153 * monthFromMarch + 2) / 5 + 1
  let month := if monthFromMarch < 10 then monthFromMarch + 3 else monthFromMarch - 9
  let year := yearOfEra + shifted / 146097 * 400 + (if month ≤ 2 then 1 else 0)
  ⟨year, month.toNat, day.toNat⟩

end Date

end SettingsForm
