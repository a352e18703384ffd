import VersionedAssets.Proofs.HttpDate.Layouts

/-! # Which instants are read back

A second of the years from 1 to 9999 is written in one way, whatever clock or count of milliseconds
shows it. It is read back if and only if its year has at least three digits: years below 100 are
read as years from 1969 to 2068. In the older layouts it is read back as far as they can write its
year.
-/

namespace VersionedAssets

/-! ## Years of one or two digits -/

/-- The same day and time in another year. -/
def DateTime.inYear (t : DateTime) (year : Int) : DateTime :=
  ⟨⟨year, t.date.month, t.date.day⟩, t.hour, t.minute, t.second⟩

namespace Calendar

theorem daysBeforeMarch_lt {year other : Int} (hlt : year < other) :
    daysBeforeMarch year < daysBeforeMarch other := by
  unfold daysBeforeMarch
  omega

theorem dayNumber_lt_of_year_lt (date : Date) {year : Int} (hlt : date.year < year) :
    dayNumber date < dayNumber ⟨year, date.month, date.day⟩ := by
  unfold dayNumber
  dsimp only
  split
  · have hbefore := daysBeforeMarch_lt (show date.year - 1 < year - 1 by omega)
    omega
  · have hbefore := daysBeforeMarch_lt hlt
    omega

/-- The same day and time of a later year comes later. -/
theorem toSeconds_lt_inYear (t : DateTime) {year : Int} (hlt : t.date.year < year) :
    toSeconds t < toSeconds (t.inYear year) := by
  have hdays := dayNumber_lt_of_year_lt t.date hlt
  unfold toSeconds daySeconds DateTime.inYear
  dsimp only
  omega

end Calendar

namespace HttpDate

theorem isLeapYear_fullYear : ∀ year : Nat, year < 100 → 0 < year →
    Calendar.isLeapYear (fullYear year) = Calendar.isLeapYear year := by
  decide

theorem fullYear_bounds {year : Int} (hfirst : 1 ≤ year) (hlast : year < 100) :
    year < fullYear year ∧ fullYear year ≤ 9999 := by
  unfold fullYear
  rw [if_pos hlast]
  split <;> omega

/-- A day of a year below 100 is also one of the year that is read instead. -/
theorem inYear_isValid {t : DateTime} (hvalid : t.IsValid) (hfirst : 1 ≤ t.date.year)
    (hlast : t.date.year < 100) : (t.inYear (fullYear t.date.year)).IsValid := by
  obtain ⟨year, hyear⟩ := Int.eq_ofNat_of_zero_le (a := t.date.year) (by omega)
  have hlength : Calendar.monthLength (fullYear t.date.year) t.date.month =
      Calendar.monthLength t.date.year t.date.month := by
    rw [hyear, Calendar.monthLength, Calendar.monthLength,
      isLeapYear_fullYear year (by omega) (by omega)]
  refine ⟨⟨hvalid.date.month_pos, hvalid.date.month_le, hvalid.date.day_pos, ?_⟩,
    hvalid.hour_lt, hvalid.minute_lt, hvalid.second_lt⟩
  exact hvalid.date.day_le.trans hlength.ge

/-- What is written in a year of one or two digits is read as a date from 1969 to 2068. -/
theorem read_format_of_early {t : DateTime} (hvalid : t.IsValid) (hfirst : 1 ≤ t.date.year)
    (hlast : t.date.year < 100) :
    read (format t) = .ok (some ⟨t.inYear (fullYear t.date.year), 0⟩) := by
  obtain ⟨year, hyear⟩ := Int.eq_ofNat_of_zero_le (a := t.date.year) (by omega)
  obtain ⟨hlater, hbelow⟩ := fullYear_bounds hfirst hlast
  have hpos : 1 ≤ fullYear t.date.year := by omega
  refine read_of_numbers? (inYear_isValid hvalid hfirst hlast) hpos hbelow
    (some 0) rfl ?_
  rw [numbers?_format hvalid hyear (by omega), hyear]
  rfl

/-! ## Instants -/

/-- The text is read as the instant a number of seconds after 1 January 1970. -/
def ReadsAs (text : String) (seconds : Int) : Prop :=
  ∃ moment, read text = .ok (some moment) ∧ moment.toSeconds = seconds

section

variable {text : String} {seconds : Int}

theorem readsAs_of_read (hread : read text = .ok (some ⟨Calendar.ofSeconds seconds, 0⟩)) :
    ReadsAs text seconds := by
  refine ⟨_, hread, ?_⟩
  rw [Moment.toSeconds, Calendar.toSeconds_ofSeconds, Int.sub_zero]

theorem not_readsAs_of_early (hfirst : 1 ≤ (Calendar.ofSeconds seconds).date.year)
    (hlast : (Calendar.ofSeconds seconds).date.year < 100) :
    ¬ ReadsAs (format (Calendar.ofSeconds seconds)) seconds := by
  rintro ⟨moment, hread, hsame⟩
  rw [read_format_of_early (Calendar.ofSeconds_isValid seconds) hfirst hlast] at hread
  obtain rfl := Option.some.inj (Except.ok.inj hread)
  have hlater := Calendar.toSeconds_lt_inYear _ (fullYear_bounds hfirst hlast).1
  rw [Calendar.toSeconds_ofSeconds] at hlater
  rw [Moment.toSeconds, Int.sub_zero] at hsame
  exact Int.ne_of_gt hlater hsame

end

/-- How the second is written, and when it is read back from what is written. -/
structure RoundTrips (seconds : Int) : Prop where
  /-- Every clock that shows the second, however far from UTC, has it written in the same way. -/
  written : ∀ moment : Moment, moment.toSeconds = seconds →
    ofMoment moment = .ok (format (Calendar.ofSeconds seconds))
  /-- So has every count of milliseconds that lies in the second. -/
  counted : ∀ millis, millis / 1000 = seconds →
    ofMillis millis = .ok (format (Calendar.ofSeconds seconds))
  read_iff : ReadsAs (format (Calendar.ofSeconds seconds)) seconds ↔
    100 ≤ (Calendar.ofSeconds seconds).date.year
  asctime : 1000 ≤ (Calendar.ofSeconds seconds).date.year →
    ReadsAs (asctime (Calendar.ofSeconds seconds)) seconds
  rfc850 : 1969 ≤ (Calendar.ofSeconds seconds).date.year →
    (Calendar.ofSeconds seconds).date.year ≤ 2068 →
      ReadsAs (rfc850 (Calendar.ofSeconds seconds)) seconds

/-- The seconds of the years from 1 to 9999 are written in one way. They are read back from the year
100 on, and from the older layouts in the years that these can write. -/
theorem roundTrips_of_year {seconds : Int} (hfirst : 1 ≤ (Calendar.ofSeconds seconds).date.year)
    (hlast : (Calendar.ofSeconds seconds).date.year ≤ 9999) : RoundTrips seconds := by
  have hvalid := Calendar.ofSeconds_isValid seconds
  constructor
  case written =>
    rintro moment rfl
    rw [ofMoment, Moment.inUtc, if_pos ⟨hfirst, hlast⟩]
    rfl
  case counted =>
    rintro millis rfl
    exact ofMillis_of_inYears ⟨hfirst, hlast⟩
  case read_iff =>
    constructor
    · intro hreads
      by_contra hearly
      exact not_readsAs_of_early hfirst (by omega) hreads
    · exact fun hlate => readsAs_of_read (read_format hvalid hlate hlast)
  case asctime =>
    intro hlate
    obtain ⟨year, hyear⟩ := Int.eq_ofNat_of_zero_le
      (a := (Calendar.ofSeconds seconds).date.year) (by omega)
    refine readsAs_of_read (read_of_numbers? hvalid hfirst hlast none rfl ?_)
    rw [numbers?_asctime hvalid hyear (by omega), fullYear_of_le (by omega), hyear]
  case rfc850 =>
    intro hearliest hlatest
    have hyear : fullYear ((Calendar.ofSeconds seconds).date.year % 100) =
        (Calendar.ofSeconds seconds).date.year := by
      unfold fullYear
      split <;> [split; skip] <;> omega
    refine readsAs_of_read (read_of_numbers? hvalid hfirst hlast (some 0) rfl ?_)
    rw [numbers?_rfc850 hvalid, hyear]

/-- The last second before 1970, which is a negative count, is read back from all three layouts. -/
theorem roundTrips_of_year_1969 :
    (Calendar.ofSeconds (-1)).date.year = 1969 ∧ RoundTrips (-1) ∧
      ReadsAs (format (Calendar.ofSeconds (-1))) (-1) ∧
      ReadsAs (asctime (Calendar.ofSeconds (-1))) (-1) ∧
      ReadsAs (HttpDate.rfc850 (Calendar.ofSeconds (-1))) (-1) := by
  have htrips : RoundTrips (-1) := roundTrips_of_year (by decide) (by decide)
  exact ⟨by decide, htrips, htrips.read_iff.mpr (by decide), htrips.asctime (by decide),
    htrips.rfc850 (by decide) (by decide)⟩

example : rfc850 (Calendar.ofSeconds (-1)) = "Wednesday, 31-Dec-69 23:59:59 GMT" := by
  decide +kernel

end HttpDate

end VersionedAssets
