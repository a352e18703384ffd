import VersionedAssets.Calendar
import VersionedAssets.Fault
import VersionedAssets.Number.Binary64

/-! # Moments

A moment is a date and time of day together with the distance of its clock from UTC. Its parts are
checked when it is built: years run from 1 to 9999, every other part has the range of its unit, and
a number that does not fit 32 bits is an overflow rather than a wrong value. Moments are also found
from a count of milliseconds; that count is divided by a thousand in double precision first.
-/

namespace VersionedAssets

/-- A date and time on a clock that is `offset` seconds ahead of UTC. -/
structure Moment where
  clock : DateTime
  offset : Int
  deriving DecidableEq, Repr, Inhabited

namespace Moment

/-- The seconds from 1 January 1970 in UTC to the moment. -/
def toSeconds (moment : Moment) : Int := Calendar.toSeconds moment.clock - moment.offset

/-- Two to the power 31: the least number that does not fit 32 bits with a sign. -/
def wordLimit : Int := 2147483648

/-- Two to the power 63: the least number that does not fit 64 bits with a sign. -/
def longLimit : Int := 9223372036854775808

/-- Refuses a number that does not fit 32 bits with a sign. -/
def checkWord (n : Int) : Except Fault Unit :=
  if n < -longLimit ∨ longLimit ≤ n then .error (.overflow .wordTooLarge)
  else if wordLimit ≤ n then .error (.overflow .aboveMaximum)
  else if n < -wordLimit then .error (.overflow .belowMinimum)
  else .ok ()

/-- Refuses a number outside of a range. -/
def checkRange (low high n : Int) (fault : ValueFault) : Except Fault Unit :=
  if low ≤ n ∧ n ≤ high then .ok () else .error (.value fault)

/-- The date and time with the given parts. Overflows are found before ranges are checked, and the
day is checked against the length of its month. -/
def checked (year month day hour minute second microsecond : Int) : Except Fault DateTime := do
  for n in [year, month, day, hour, minute, second, microsecond] do
    checkWord n
  checkRange 1 9999 year (.year year)
  checkRange 1 12 month .month
  checkRange 1 (Calendar.monthLength year month.toNat) day .day
  checkRange 0 23 hour .hour
  checkRange 0 59 minute .minute
  checkRange 0 59 second .second
  checkRange 0 999999 microsecond .microsecond
  return ⟨⟨year, month.toNat, day.toNat⟩, hour.toNat, minute.toNat, second.toNat⟩

/-- The date and time with parts in the order of `checked`, where at least year, month and day have
to be there. A part that is not an integer is refused when its turn comes. -/
def ofParts (parts : List (Option Int)) : Except Fault DateTime := do
  for part in parts.take 7 do
    match part with
    | some n => checkWord n
    | none => throw (.mistyped .dateParts)
  if parts.length < 3 ∨ 7 < parts.length then throw (.mistyped .dateParts)
  let part (i : Nat) : Int := (parts.getD i none).getD 0
  checked (part 0) (part 1) (part 2) (part 3) (part 4) (part 5) (part 6)

/-- Refuses a span of seconds of more than 999999999 days. -/
def checkSpan (seconds : Int) : Except Fault Unit :=
  let days := seconds / Calendar.daySeconds
  if days < -wordLimit ∨ wordLimit ≤ days then .error (.overflow .dayCount)
  else if days < -999999999 ∨ 999999999 < days then .error (.overflow (.days days))
  else .ok ()

/-- The same moment on a clock that shows UTC. -/
def inUtc (moment : Moment) : Except Fault DateTime :=
  let shown := Calendar.ofSeconds moment.toSeconds
  if 1 ≤ shown.date.year ∧ shown.date.year ≤ 9999 then .ok shown
  else .error (.overflow .dateRange)

/-- The whole seconds of a count of seconds in double precision, rounded down. The part after the
point is rounded to millionths first, which may carry. -/
def wholeSeconds (x : Number.Binary64) : Int :=
  let (n, d) := x.fractionPart
  let millionths := match Number.Binary64.ofQuotient? false (n * 1000000) d with
    | some y => let (a, b) := y.scaled 1; Number.roundHalfEven a b
    | none => 0
  if x.negative then
    if millionths = 0 then x.truncate else x.truncate - 1
  else if 1000000 ≤ millionths then x.truncate + 1 else x.truncate

/-- A year that is stored in 32 bits with a sign. -/
def storedYear (year : Int) : Int := Int.bmod year 4294967296

/-- The date and time in UTC after a count of seconds, if the year is one from 1 to 9999. Farther
away the year is counted from 1900 in 32 bits, and farther yet the count itself is refused. -/
def ofSeconds (seconds : Int) : Except Fault DateTime :=
  if seconds < -longLimit ∨ longLimit ≤ seconds then .error (.overflow .seconds)
  else
    let shown := Calendar.ofSeconds seconds
    let year := shown.date.year
    if year - 1900 < -wordLimit ∨ wordLimit ≤ year - 1900 then .error (.io .yearTooLarge)
    else if 1 ≤ year ∧ year ≤ 9999 then .ok shown
    else .error (.value (.year (storedYear year)))

/-- The offset in seconds of a clock that is a number of minutes ahead of UTC. A clock is less than
a day from UTC. -/
def offsetOf (minutes : Int) : Except Fault Int := do
  checkSpan (minutes * 60)
  if -1440 < minutes ∧ minutes < 1440 then return minutes * 60
  else throw (.value (.clockOffset minutes))

/-- The date and time in UTC after a count of milliseconds. -/
def ofMillis (millis : Int) : Except Fault DateTime :=
  match Number.Binary64.ofQuotient? (millis < 0) millis.natAbs 1000 with
  | none => .error (.overflow .quotient)
  | some x => ofSeconds (wholeSeconds x)

/-- The date and time in UTC after a fractional count of milliseconds. -/
def ofFractionalMillis (millis : Float) : Except Fault DateTime :=
  let seconds := millis / 1000
  match Number.Binary64.ofFloat? seconds with
  | some x => ofSeconds (wholeSeconds x)
  | none => .error (if seconds.isNaN then .value .notANumber else .overflow .infinite)

end Moment

end VersionedAssets
