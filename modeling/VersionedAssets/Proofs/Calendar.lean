import VersionedAssets.Calendar

/-! # Days and dates

Every count of days is the number of one date of the calendar, so counting seconds and reading them
as a date and time undo each other. Within an era of 400 years a day is found by its century, its
four years and its year, all counted from March on.
-/

namespace VersionedAssets

/-- The month is one of twelve, and the day is one of its days. -/
structure Date.IsValid (date : Date) : Prop where
  month_pos : 1 ≤ date.month
  month_le : date.month ≤ 12
  day_pos : 1 ≤ date.day
  day_le : date.day ≤ Calendar.monthLength date.year date.month

/-- The date is one of the calendar, and the time is one of a day. -/
structure DateTime.IsValid (t : DateTime) : Prop where
  date : t.date.IsValid
  hour_lt : t.hour < 24
  minute_lt : t.minute < 60
  second_lt : t.second < 60

namespace Calendar

theorem monthLength_le (year : Int) (month : Nat) : monthLength year month ≤ 31 := by
  unfold monthLength
  split
  · split <;> decide
  · split <;> decide

theorem monthLength_of_ne {month : Nat} (hmonth : month ≠ 2) (year other : Int) :
    monthLength year month = monthLength other month := by
  rw [monthLength, monthLength, if_neg hmonth, if_neg hmonth]

/-! ## Years of an era -/

/-- A day of an era in its century, its four years and its year. -/
structure InCycle (day century quad year rest : Nat) : Prop where
  century_le : century ≤ 3
  quad_le : quad ≤ 24
  year_le : year ≤ 3
  rest_le : rest ≤ 365
  /-- Only the last of four years is long, and the last of a century only if it ends the era. -/
  long : rest = 365 → year = 3 ∧ (quad = 24 → century = 3)
  day_eq : day = 36524 * century + 1461 * quad + 365 * year + rest

theorem exists_inCycle {day : Nat} (hday : day < 146097) :
    ∃ century quad year rest, InCycle day century quad year rest := by
  let century := min (day / 36524) 3
  let inCentury := day - 36524 * century
  let inQuad := inCentury % 1461
  let year := min (inQuad / 365) 3
  have hcentury : inCentury ≤ 36524 ∧ (inCentury = 36524 → century = 3) := by omega
  refine ⟨century, inCentury / 1461, year, inQuad - 365 * year, ?_⟩
  constructor <;> omega

namespace InCycle

variable {day century quad year rest : Nat}

theorem centuries_eq (hcycle : InCycle day century quad year rest) :
    day / 36524 = century + day / 146096 := by
  have hday := hcycle.day_eq
  have hcentury := hcycle.century_le
  have hbounds : day < 36524 * (century + 1) ∨ century = 3 ∧ day = 146096 := by
    have hquad := hcycle.quad_le
    have hyear := hcycle.year_le
    have hrest := hcycle.rest_le
    have hlong := hcycle.long
    omega
  rcases hbounds with hbelow | ⟨rfl, rfl⟩
  · have hlow : century * 36524 ≤ day := by omega
    rw [Nat.div_eq_of_lt_le hlow (by omega), Nat.div_eq_of_lt (by omega), Nat.add_zero]
  · rfl

/-- By how much the days before the year were counted too many. -/
theorem exists_extra (hcycle : InCycle day century quad year rest) :
    ∃ extra, day / 1460 = 25 * century + quad + extra ∧ extra ≤ rest ∧ rest < extra + 365 := by
  obtain ⟨hcentury, hquad, hyear, hrest, hlong, hday⟩ := hcycle
  have hsplit : day =
      1460 * (25 * century + quad) + (24 * century + quad + 365 * year + rest) := by omega
  rw [hsplit, Nat.mul_add_div (by decide)]
  rcases Nat.lt_or_ge (24 * century + quad + 365 * year + rest) 1460 with hbelow | habove
  · refine ⟨0, ?_, Nat.zero_le _, ?_⟩
    · rw [Nat.div_eq_of_lt hbelow]
    · refine Nat.lt_of_le_of_ne hrest fun heq => ?_
      have hthird := (hlong heq).1
      omega
  · refine ⟨1, ?_, by omega, by omega⟩
    have hone : (24 * century + quad + 365 * year + rest) / 1460 = 1 :=
      Nat.div_eq_of_lt_le (by omega) (by omega)
    rw [hone]

theorem yearOfEra_eq (hcycle : InCycle day century quad year rest) :
    yearOfEra day = 100 * century + 4 * quad + year := by
  have hcenturies := hcycle.centuries_eq
  have hday := hcycle.day_eq
  obtain ⟨extra, hquads, hextra, hrest⟩ := hcycle.exists_extra
  have hshift : day - day / 1460 + day / 36524 - day / 146096 =
      365 * (100 * century + 4 * quad + year) + (rest - extra) := by
    rw [hquads, hcenturies]
    generalize day / 146096 = eras
    omega
  have hbelow : rest - extra < 365 := by omega
  rw [yearOfEra, hshift, Nat.mul_add_div (by decide), Nat.div_eq_of_lt hbelow, Nat.add_zero]

end InCycle

/-- The days of an era before a year of it. -/
def daysBeforeYear (year : Nat) : Nat := 365 * year + year / 4 - year / 100

theorem InCycle.daysBeforeYear_eq {day century quad year rest : Nat}
    (hcycle : InCycle day century quad year rest) :
    daysBeforeYear (yearOfEra day) + rest = day := by
  have hyear := hcycle.yearOfEra_eq
  obtain ⟨hcentury, hquad, hyear', -, -, hday⟩ := hcycle
  have hquads : yearOfEra day / 4 = 25 * century + quad := by omega
  have hcenturies : yearOfEra day / 100 = century := by omega
  rw [daysBeforeYear, hquads, hcenturies]
  omega

theorem daysBeforeMarch_eq (era : Int) {year : Nat} (hyear : year < 400) :
    daysBeforeMarch (400 * era + year) = 146097 * era + daysBeforeYear year := by
  unfold daysBeforeMarch daysBeforeYear
  omega

/-! ## Days of a year that begins in March -/

/-- The date of a day of a year that begins in March and is named for it. -/
def marchDate (year : Int) (day : Nat) : Date :=
  let month := (5 * day + 2) / 153
  let civilMonth := if month < 10 then month + 3 else month - 9
  ⟨year + (if civilMonth ≤ 2 then 1 else 0), civilMonth, day - daysBeforeMonth month + 1⟩

/-- The months have their lengths, and the last one has 29 days if the year is that long. -/
theorem marchDate_zero : ∀ day < 366,
    let date := marchDate 0 day
    1 ≤ date.month ∧ date.month ≤ 12 ∧
      date.day ≤ if date.month = 2 then 28 + day / 365 else monthLength 0 date.month := by
  decide +kernel

theorem daysBeforeMonth_le : ∀ day < 366,
    (5 * day + 2) / 153 < 12 ∧ daysBeforeMonth ((5 * day + 2) / 153) ≤ day := by
  decide +kernel

theorem marchDate_isValid {year : Int} {day : Nat} (hday : day ≤ 365)
    (hleap : day = 365 → isLeapYear (year + 1) = true) : (marchDate year day).IsValid := by
  obtain ⟨hpos, hle, hdays⟩ := marchDate_zero day (by omega)
  refine ⟨hpos, hle, Nat.le_add_left _ _, Nat.le_trans hdays ?_⟩
  change _ ≤ monthLength (marchDate year day).year (marchDate 0 day).month
  split
  next hfebruary =>
    have hyear : (marchDate year day).year = year + 1 := by
      change year + (if (marchDate 0 day).month ≤ 2 then 1 else 0) = _
      rw [if_pos (by omega)]
    rw [hfebruary, hyear, monthLength, if_pos rfl]
    split
    next => omega
    next hshort =>
      have hnot : day ≠ 365 := fun heq => hshort (hleap heq)
      omega
  next hother => exact Nat.le_of_eq (monthLength_of_ne hother _ _)

theorem dayNumber_marchDate (year : Int) {day : Nat} (hday : day ≤ 365) :
    dayNumber (marchDate year day) = daysBeforeMarch year + day - 719468 := by
  obtain ⟨hmonth, hbefore⟩ := daysBeforeMonth_le day (by omega)
  unfold marchDate
  generalize (5 * day + 2) / 153 = month at hmonth hbefore ⊢
  by_cases hlate : month < 10
  · have hcivil : ¬ month + 3 ≤ 2 := by omega
    simp only [dayNumber, hlate, hcivil, if_true, if_false, Int.add_zero, Nat.add_sub_cancel]
    omega
  · have hcivil : month - 9 ≤ 2 := by omega
    have hback : month - 9 + 9 = month := by omega
    simp only [dayNumber, hlate, hcivil, if_true, if_false, Int.add_sub_cancel, hback]
    omega

/-! ## Counting days and seconds -/

/-- A count of days falls into a year of an era, and is the date of a day of that year. -/
theorem exists_ofDayNumber (number : Int) :
    ∃ (era : Int) (year rest : Nat), year < 400 ∧ rest ≤ 365 ∧
      (rest = 365 → isLeapYear (400 * era + year + 1) = true) ∧
      number + 719468 = 146097 * era + daysBeforeYear year + rest ∧
      ofDayNumber number = marchDate (400 * era + year) rest := by
  have hday : ((number + 719468) % 146097).toNat < 146097 := by omega
  obtain ⟨century, quad, year, rest, hcycle⟩ := exists_inCycle hday
  have hyear := hcycle.yearOfEra_eq
  have hbefore := hcycle.daysBeforeYear_eq
  have hcentury := hcycle.century_le
  have hquad := hcycle.quad_le
  refine ⟨(number + 719468) / 146097, yearOfEra ((number + 719468) % 146097).toNat, rest, ?_,
    hcycle.rest_le, ?_, ?_, ?_⟩
  · have hyear' := hcycle.year_le
    omega
  · intro hlong
    obtain ⟨rfl, hlast⟩ := hcycle.long hlong
    rw [hyear]
    generalize (number + 719468) / 146097 = era
    simp only [isLeapYear, Bool.and_eq_true, Bool.or_eq_true, beq_iff_eq, bne_iff_ne]
    omega
  · omega
  · have hrest : ((number + 719468) % 146097).toNat -
        daysBeforeYear (yearOfEra ((number + 719468) % 146097).toNat) = rest := by omega
    rw [← hrest]
    rfl

theorem dayNumber_ofDayNumber (number : Int) : dayNumber (ofDayNumber number) = number := by
  obtain ⟨era, year, rest, hyear, hrest, -, hnumber, hdate⟩ := exists_ofDayNumber number
  rw [hdate, dayNumber_marchDate _ hrest, daysBeforeMarch_eq era hyear]
  omega

theorem ofDayNumber_isValid (number : Int) : (ofDayNumber number).IsValid := by
  obtain ⟨era, year, rest, -, hrest, hleap, -, hdate⟩ := exists_ofDayNumber number
  rw [hdate]
  exact marchDate_isValid hrest hleap

/-- The years of moments lie within some three million days. -/
theorem number_bounds {number : Int} (hfirst : 1 ≤ (ofDayNumber number).year)
    (hlast : (ofDayNumber number).year ≤ 9999) : -719468 ≤ number ∧ number < 2933000 := by
  obtain ⟨era, year, rest, hyear, hrest, -, hnumber, hdate⟩ := exists_ofDayNumber number
  have hnear : (marchDate (400 * era + year) rest).year = 400 * era + year ∨
      (marchDate (400 * era + year) rest).year = 400 * era + year + 1 := by
    unfold marchDate
    dsimp only
    generalize (if (5 * rest + 2) / 153 < 10 then _ else _ : Nat) = month
    split <;> omega
  rw [hdate] at hfirst hlast
  unfold daysBeforeYear at hnumber
  omega

theorem ofSeconds_isValid (seconds : Int) : (ofSeconds seconds).IsValid := by
  have hrest : (seconds % daySeconds).toNat < 86400 := by
    unfold daySeconds
    omega
  refine ⟨ofDayNumber_isValid _, ?_, ?_, ?_⟩
  · exact Nat.div_lt_of_lt_mul hrest
  · exact Nat.mod_lt _ (by decide)
  · exact Nat.mod_lt _ (by decide)

theorem toSeconds_ofSeconds (seconds : Int) : toSeconds (ofSeconds seconds) = seconds := by
  rw [toSeconds, ofSeconds]
  dsimp only
  rw [dayNumber_ofDayNumber]
  unfold daySeconds
  omega

end Calendar

end VersionedAssets
