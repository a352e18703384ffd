import VersionedAssets.Moment

/-! # Dates of HTTP headers

The one format in which dates are written: the day of the week, the day of the month with two
digits, the month, the year without padding, and the time of day, always in GMT.
-/

namespace VersionedAssets.HttpDate

/-- The days of the week from Monday on. -/
def dayNames : List String := ["Mon", "Tue", "Wed", "Thu", "Fri", "Sat", "Sun"]

/-- The months of the year. -/
def monthNames : List String :=
  ["Jan", "Feb", "Mar", "Apr", "May", "Jun", "Jul", "Aug", "Sep", "Oct", "Nov", "Dec"]

/-- A number below one hundred with two digits. -/
def twoDigits (n : Nat) : String := if n < 10 then "0" ++ toString n else toString n

/-- The written form of a date and time in UTC. -/
def format (t : DateTime) : String :=
  dayNames.getD (Calendar.weekday t.date) "" ++ ", " ++ twoDigits t.date.day ++ " " ++
    monthNames.getD (t.date.month - 1) "" ++ " " ++ toString t.date.year ++ " " ++
    twoDigits t.hour ++ ":" ++ twoDigits t.minute ++ ":" ++ twoDigits t.second ++ " GMT"

/-- The written form of a count of milliseconds since 1970. -/
def ofMillis (millis : Int) : Except Fault String := (Moment.ofMillis millis).map format

/-- The written form of a moment on any clock. -/
def ofMoment (moment : Moment) : Except Fault String := moment.inUtc.map format

end VersionedAssets.HttpDate
