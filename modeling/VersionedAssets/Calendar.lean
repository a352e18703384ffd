/-! # Calendar

The proleptic Gregorian calendar: days counted from the first of January 1970, and the date and
time of day of an instant in UTC. Years may be zero or negative.
-/

namespace VersionedAssets

/-- A calendar date. -/
structure Date where
  year : Int
  month : Nat
  day : Nat
  deriving DecidableEq, Repr, Inhabited

/-- A date with a time of day. -/
structure DateTime where
  date : Date
  hour : Nat
  minute : Nat
  second : Nat
  deriving DecidableEq, Repr, Inhabited

namespace Calendar

/-- Does February have 29 days? -/
def isLeapYear (year : Int) : Bool := year % 4 == 0 && (year % 100 != 0 || year % 400 == 0)

/-- The number of days of a month. -/
def monthLength (year : Int) (month : Nat) : Nat :=
  if month = 2 then (if isLeapYear year then 29 else 28)
  else if month = 4 ∨ month = 6 ∨ month = 9 ∨ month = 11 then 30 else 31

/-- The days from 1 March of year zero to the first of March of a year. -/
def daysBeforeMarch (year : Int) : Int := 365 * year + year / 4 - year / 100 + year / 400

/-- The days from the first of March to the first of a month, where March is month zero. -/
def daysBeforeMonth (month : Nat) : Nat := (153 * month + 2) / 5

/-- The days from 1 January 1970 to a date. Years are counted from March on, so that a leap day is
the last day of its year. -/
def dayNumber (date : Date) : Int :=
  let year := if date.month ≤ 2 then date.year - 1 else date.year
  let month := if date.month ≤ 2 then date.month + 9 else date.month - 3
  daysBeforeMarch year + daysBeforeMonth month + date.day - 1 - 719468

/-- The year of a day of a 400-year era, counted from March on. -/
def yearOfEra (day : Nat) : Nat := (day - day / 1460 + day / 36524 - day / 146096) / 365

/-- The date that lies a number of days after 1 January 1970. -/
def ofDayNumber (number : Int) : Date :=
  let days := number + 719468
  let era := days / 146097
  let day := (days % 146097).toNat
  let year := yearOfEra day
  let dayOfYear := day - (365 * year + year / 4 - year / 100)
  let month := (5 * dayOfYear + 2) / 153
  let dayOfMonth := dayOfYear - daysBeforeMonth month + 1
  let civilMonth := if month < 10 then month + 3 else month - 9
  ⟨400 * era + year + (if civilMonth ≤ 2 then 1 else 0), civilMonth, dayOfMonth⟩

/-- The seconds of a day. -/
def daySeconds : Int := 86400

/-- The seconds from 1 January 1970 to a date and time. -/
def toSeconds (t : DateTime) : Int :=
  dayNumber t.date * daySeconds + t.hour * 3600 + t.minute * 60 + t.second

/-- The date and time that lie a number of seconds after 1 January 1970. -/
def ofSeconds (seconds : Int) : DateTime :=
  let rest := (seconds % daySeconds).toNat
  ⟨ofDayNumber (seconds / daySeconds), rest / 3600, rest / 60 % 60, rest % 60⟩

/-- The day of the week, where Monday is zero. -/
def weekday (date : Date) : Nat := ((dayNumber date + 3) % 7).toNat

end Calendar

end VersionedAssets
