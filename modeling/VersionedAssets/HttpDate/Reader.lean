import VersionedAssets.HttpDate
import VersionedAssets.Text.Blank
import VersionedAssets.Text.Letter
import VersionedAssets.Text.Pieces

/-! # Reading dates of HTTP headers

A lenient reader for the three formats that recipients of HTTP messages understand and for many
forms near them: the day of the week may be missing, day and month may change places, as may year
and time, years may have two digits, and the zone may be a name or a signed number. What is read is
five parts in a row: day, month, year, time and zone.
-/

namespace VersionedAssets.HttpDate

/-- The five parts of a date before they are read as numbers. -/
structure Parts where
  day : List Char
  month : List Char
  year : List Char
  time : List Char
  zone : List Char
  deriving DecidableEq, Repr

/-- The days of the week in lower case. -/
def lowerDayNames : List String := ["mon", "tue", "wed", "thu", "fri", "sat", "sun"]

/-- The months in lower case, first short and then in full. -/
def lowerMonthNames : List String :=
  ["jan", "feb", "mar", "apr", "may", "jun", "jul", "aug", "sep", "oct", "nov", "dec",
    "january", "february", "march", "april", "may", "june", "july", "august", "september",
    "october", "november", "december"]

/-- The zones with names, as hours and minutes in one number. -/
def zoneNames : List (String × Int) :=
  [("UT", 0), ("UTC", 0), ("GMT", 0), ("Z", 0), ("AST", -400), ("ADT", -300), ("EST", -500),
    ("EDT", -400), ("CST", -600), ("CDT", -500), ("MST", -700), ("MDT", -600), ("PST", -800),
    ("PDT", -700)]

/-- A token in lower case. -/
def lowered (token : List Char) : List Char := (Text.lower (String.ofList token)).toList

/-- A token without one comma at its end. -/
def withoutComma (token : List Char) : List Char :=
  if token.getLast? = some ',' then token.dropLast else token

/-- The tokens without the day of the week, which ends in a comma or is one of the seven names; it
may also be joined to the next token by a comma. -/
def dropWeekday : List (List Char) → List (List Char)
  | [] => []
  | first :: rest =>
    if first.getLast? = some ',' ∨ lowerDayNames.contains (String.ofList (lowered first)) then rest
    else match Text.cutLast? ',' first with
      | some (_, after) => after :: rest
      | none => first :: rest

/-- Three tokens of which the first is a date with dashes become five. -/
def splitDashes : List (List Char) → List (List Char)
  | [first, time, zone] =>
    match Text.pieceLists '-' first with
    | [day, month, year] => [day, month, year, time, zone]
    | _ => [first, time, zone]
  | tokens => tokens

/-- The place of the sign that separates a time from a zone written after it. -/
def zoneSign (token : List Char) : Option Nat :=
  if token.contains '+' then token.idxOf? '+' else token.idxOf? '-'

/-- Four tokens become five: a zone is cut off the time, or is empty. -/
def splitZone : List (List Char) → List (List Char)
  | [day, month, year, time] =>
    match zoneSign time with
    | some (i + 1) => [day, month, year, time.take (i + 1), time.drop (i + 1)]
    | _ => [day, month, year, time, []]
  | tokens => tokens

/-- The month that a lower-case token names, counted from one. -/
def monthNumber? (token : List Char) : Option Nat :=
  (lowerMonthNames.idxOf? (String.ofList token)).map fun i => i % 12 + 1

/-- The first five tokens in their places. Day and month change places when the month is no name of
one. -/
def place? : List (List Char) → Option (Parts × Nat)
  | day :: month :: year :: time :: zone :: _ =>
    if day.isEmpty || month.isEmpty || year.isEmpty then none
    else match monthNumber? (lowered month) with
      | some n => some (⟨day, month, year, time, zone⟩, n)
      | none =>
        (monthNumber? (lowered day)).map fun n => (⟨lowered month, day, year, time, zone⟩, n)
  | _ => none

/-- Year and time change places when the year has a colon after its first character. -/
def orderTime (parts : Parts) : Parts :=
  match parts.year.idxOf? ':' with
  | some (_ + 1) => { parts with year := parts.time, time := parts.year }
  | _ => parts

/-- Year and zone change places when the year does not begin with a digit. A year that was nothing
but a comma is refused. -/
def orderZone? (parts : Parts) : Option Parts :=
  match withoutComma parts.year with
  | [] => none
  | c :: rest =>
    if Text.isDigit c then some { parts with year := c :: rest }
    else some { parts with year := parts.zone, zone := c :: rest }

/-- Hour, minute and second, separated by colons or else by points; the second may be missing. -/
def timeParts? (time : List Char) : Option (List Char × List Char × List Char) :=
  match Text.pieceLists ':' (withoutComma time) with
  | [hour, minute] => some (hour, minute, ['0'])
  | [hour, minute, second] => some (hour, minute, second)
  | [all] =>
    match Text.pieceLists '.' all with
    | [hour, minute] => some (hour, minute, ['0'])
    | [hour, minute, second] => some (hour, minute, second)
    | _ => none
  | _ => none

/-- The number that a token writes. -/
def number? (token : List Char) : Option Int := (Text.Numeral.read (String.ofList token)).toOption

/-- A year below 100 belongs to the century from 1969 to 2068. -/
def fullYear (year : Int) : Int :=
  if year < 100 then (if 68 < year then year + 1900 else year + 2000) else year

/-- The seconds that a zone number of hours and minutes stands for. -/
def zoneSeconds (n : Int) : Int :=
  let size := (n.natAbs / 100 * 3600 + n.natAbs % 100 * 60 : Nat)
  if n < 0 then -(size : Int) else size

/-- The distance of a zone from UTC in seconds; none for an unknown zone and for minus zero. -/
def zoneOffset? (zone : List Char) : Option Int :=
  let name := Text.upper (String.ofList zone)
  match zoneNames.lookup name with
  | some n => some (zoneSeconds n)
  | none =>
    match (Text.Numeral.read name).toOption with
    | none => none
    | some n => if n = 0 ∧ Text.startsWith name "-" then none else some (zoneSeconds n)

/-- A date as numbers: year, month, day, hour, minute, second, and the offset of the zone. -/
structure Numbers where
  year : Int
  month : Int
  day : Int
  hour : Int
  minute : Int
  second : Int
  offset : Option Int
  deriving DecidableEq, Repr

/-- The numbers that the tokens of a date write. -/
def numbers? (tokens : List (List Char)) : Option Numbers := do
  let (placed, month) ← place? (splitZone (splitDashes (dropWeekday tokens)))
  let parts ← orderZone? (orderTime placed)
  let (hour, minute, second) ← timeParts? parts.time
  let year ← number? parts.year
  let day ← number? (withoutComma placed.day)
  return ⟨fullYear year, month, day, ← number? hour, ← number? minute, ← number? second,
    zoneOffset? parts.zone⟩

/-- Does the fault only say that the value is no date? -/
def isMalformed : Fault → Bool
  | .value _ => true
  | _ => false

/-- The moment with the given numbers; zones of a day and more are refused. -/
def Numbers.moment (n : Numbers) : Except Fault Moment := do
  match n.offset with
  | none => return ⟨← Moment.checked n.year n.month n.day n.hour n.minute n.second 0, 0⟩
  | some offset =>
    Moment.checkSpan offset
    Moment.checkRange (-86399) 86399 offset (.described "offset of a day or more")
    return ⟨← Moment.checked n.year n.month n.day n.hour n.minute n.second 0, offset⟩

/-- The moment that a header value stands for; none if it is no date. Numbers too large to be
stored are a fault. -/
def read (value : String) : Except Fault (Option Moment) :=
  match numbers? (Text.wordLists value.toList) with
  | none => .ok none
  | some n =>
    match n.moment with
    | .ok moment => .ok (some moment)
    | .error fault => if isMalformed fault then .ok none else .error fault

end VersionedAssets.HttpDate
