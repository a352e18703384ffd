import VersionedAssets.HttpDate.Reader
import VersionedAssets.Proofs.Moment
import VersionedAssets.Proofs.Moment.Parts
import VersionedAssets.Proofs.Text.Words

/-! # Dates that are read back

A date that was written is split into its six words, none of which is taken for another part, and
each number in it is read as it was written. Only years below 100 are not: the reader moves them
into the century from 1969 to 2068. Reading never fails but for numbers that cannot be stored.
-/

namespace VersionedAssets.HttpDate

open Text

/-! ## The words of a date -/

theorem isDecimal_twoDigits (n : Nat) : IsDecimal (twoDigits n).toList := by
  have hdecimal := isDecimal_toString n
  unfold twoDigits
  split
  · rw [String.toList_append]
    exact ⟨by simp, List.forall_mem_cons.mpr ⟨by decide, hdecimal.digits⟩⟩
  · exact hdecimal

theorem number?_twoDigits : ∀ n < 100, number? (twoDigits n).toList = some (n : Int) := by
  decide +kernel

theorem number?_toString {n : Nat} (hn : n < 10000) :
    number? (toString n).toList = some (n : Int) := by
  have hlength : (Nat.toDigits 10 n).length ≤ 4 :=
    (Nat.length_toDigits_le_iff (by decide) (by decide)).mpr hn
  rw [number?, String.ofList_toList, read_toString (hlength.trans (by decide))]
  rfl

/-- The day of the week of a date with its comma. -/
def dayWord (t : DateTime) : List Char :=
  (dayNames.getD (Calendar.weekday t.date) "").toList ++ [',']

/-- The short name of the month of a date. -/
def monthWord (t : DateTime) : List Char := (monthNames.getD (t.date.month - 1) "").toList

/-- The time of day. -/
def timeWord (t : DateTime) : List Char :=
  (twoDigits t.hour).toList ++ ':' ::
    ((twoDigits t.minute).toList ++ ':' :: (twoDigits t.second).toList)

theorem toList_format (t : DateTime) :
    (format t).toList =
      dayWord t ++ ' ' :: ((twoDigits t.date.day).toList ++
        ' ' :: (monthWord t ++ ' ' :: ((toString t.date.year).toList ++
          ' ' :: (timeWord t ++ ' ' :: "GMT".toList)))) := by
  simp [format, dayWord, monthWord, timeWord]

theorem weekday_lt (date : Date) : Calendar.weekday date < 7 := by
  unfold Calendar.weekday
  omega

theorem noBlanks_dayName : ∀ n < 7, NoBlanks (dayNames.getD n "").toList := by decide +kernel

/-- A month is written as one word, which the reader knows. -/
theorem monthName_spec : ∀ n < 12, NoBlanks (monthNames.getD n "").toList ∧
    (monthNames.getD n "").toList ≠ [] ∧
    monthNumber? (lowered (monthNames.getD n "").toList) = some (n + 1) := by
  decide +kernel

theorem noBlanks_dayWord (t : DateTime) : NoBlanks (dayWord t) :=
  (noBlanks_dayName _ (weekday_lt t.date)).append (by decide)

theorem monthWord_spec {t : DateTime} (hvalid : t.IsValid) :
    NoBlanks (monthWord t) ∧ monthWord t ≠ [] ∧
      monthNumber? (lowered (monthWord t)) = some t.date.month := by
  have hmonth : t.date.month - 1 < 12 := by
    have hle := hvalid.date.month_le
    omega
  have hspec := monthName_spec _ hmonth
  rwa [Nat.sub_add_cancel hvalid.date.month_pos] at hspec

theorem noBlanks_timeWord (t : DateTime) : NoBlanks (timeWord t) := by
  have hcolon : NoBlanks [':'] := by decide
  have hdigits (n : Nat) : NoBlanks (twoDigits n).toList := (isDecimal_twoDigits n).noBlanks
  exact (hdigits _).append (hcolon.append ((hdigits _).append (hcolon.append (hdigits _))))

theorem wordLists_format {t : DateTime} {year : Nat} (hvalid : t.IsValid)
    (hyear : t.date.year = year) :
    wordLists (format t).toList =
      [dayWord t, (twoDigits t.date.day).toList, monthWord t, (toString year).toList, timeWord t,
        "GMT".toList] := by
  have hblank : isBlank ' ' = true := by decide
  have hday := isDecimal_twoDigits t.date.day
  have hyear' := isDecimal_toString year
  obtain ⟨hmonth, hmonth', -⟩ := monthWord_spec hvalid
  have hnumeral : (toString t.date.year).toList = (toString year).toList := by
    rw [hyear]
    rfl
  rw [toList_format, hnumeral,
    wordLists_append_cons (noBlanks_dayWord t) (by simp [dayWord]) hblank,
    wordLists_append_cons hday.noBlanks hday.ne_nil hblank,
    wordLists_append_cons hmonth hmonth' hblank,
    wordLists_append_cons hyear'.noBlanks hyear'.ne_nil hblank,
    wordLists_append_cons (noBlanks_timeWord t) (by simp [timeWord]) hblank,
    wordLists_of_noBlanks (by decide) (by decide)]

/-! ## The parts of a date -/

theorem withoutComma_of_notMem {cs : List Char} (hcomma : ',' ∉ cs) : withoutComma cs = cs := by
  rw [withoutComma, if_neg]
  exact fun hlast => hcomma (List.mem_of_getLast? hlast)

theorem orderTime_of_isDecimal {parts : Parts} (hyear : IsDecimal parts.year) :
    orderTime parts = parts := by
  have hcolon : parts.year.idxOf? ':' = none := by
    rw [List.idxOf?_eq_none_iff]
    exact hyear.notMem (by decide)
  rw [orderTime, hcolon]

theorem orderZone?_of_isDecimal {parts : Parts} (hyear : IsDecimal parts.year) :
    orderZone? parts = some parts := by
  rw [orderZone?, withoutComma_of_notMem (hyear.notMem (by decide))]
  obtain ⟨c, rest, hparts⟩ := List.exists_cons_of_ne_nil hyear.ne_nil
  have hc := hyear.digits c (by rw [hparts]; exact List.mem_cons_self)
  rw [hparts]
  dsimp only
  rw [if_pos (isDigit_of_ascii hc), ← hparts]

theorem timeParts?_timeWord (t : DateTime) :
    timeParts? (timeWord t) =
      some ((twoDigits t.hour).toList, (twoDigits t.minute).toList,
        (twoDigits t.second).toList) := by
  have hcolon (n : Nat) : ':' ∉ (twoDigits n).toList := (isDecimal_twoDigits n).notMem (by decide)
  have hcomma : ',' ∉ timeWord t := by
    have hdigits (n : Nat) : ',' ∉ (twoDigits n).toList :=
      (isDecimal_twoDigits n).notMem (by decide)
    simp [timeWord, hdigits]
  rw [timeParts?, withoutComma_of_notMem hcomma, timeWord, pieceLists_append_cons,
    pieceLists_append_cons, pieceLists_of_notMem (hcolon _), pieceLists_of_notMem (hcolon _),
    pieceLists_of_notMem (hcolon _)]
  rfl

theorem day_lt {t : DateTime} (hvalid : t.IsValid) : t.date.day < 100 := by
  have hle := hvalid.date.day_le
  have hle' := Calendar.monthLength_le t.date.year t.date.month
  omega

theorem numbers?_of_placed {tokens : List (List Char)} {placed : Parts} (parts : Parts)
    {t : DateTime} {n : Nat} {year : Int} (hvalid : t.IsValid)
    (hplace : place? (splitZone (splitDashes (dropWeekday tokens))) = some (placed, n))
    (hparts : orderZone? (orderTime placed) = some parts) (htime : parts.time = timeWord t)
    (hyear : number? parts.year = some year)
    (hday : number? (withoutComma placed.day) = some (t.date.day : Int)) :
    numbers? tokens =
      some ⟨fullYear year, n, t.date.day, t.hour, t.minute, t.second, zoneOffset? parts.zone⟩ := by
  have hhour : t.hour < 100 := hvalid.hour_lt.trans (by decide)
  have hminute : t.minute < 100 := hvalid.minute_lt.trans (by decide)
  have hsecond : t.second < 100 := hvalid.second_lt.trans (by decide)
  simp only [numbers?, hplace, hparts, htime, timeParts?_timeWord, hyear, hday,
    number?_twoDigits _ hhour, number?_twoDigits _ hminute, number?_twoDigits _ hsecond,
    Option.bind_eq_bind, Option.bind_some]
  rfl

/-- Words in the order in which dates are written stay in their places. -/
theorem numbers?_of_ordered {tokens : List (List Char)} {day year zone : List Char}
    {t : DateTime} {y : Int} (hvalid : t.IsValid)
    (htokens : splitZone (splitDashes (dropWeekday tokens)) =
      [day, monthWord t, year, timeWord t, zone])
    (hday : IsDecimal day) (hday' : number? day = some (t.date.day : Int))
    (hyear : IsDecimal year) (hyear' : number? year = some y) :
    numbers? tokens =
      some ⟨fullYear y, t.date.month, t.date.day, t.hour, t.minute, t.second,
        zoneOffset? zone⟩ := by
  obtain ⟨-, hne, hmonth⟩ := monthWord_spec hvalid
  let parts : Parts := ⟨day, monthWord t, year, timeWord t, zone⟩
  have hplace : place? (splitZone (splitDashes (dropWeekday tokens))) =
      some (parts, t.date.month) := by
    have hfilled : (day.isEmpty || (monthWord t).isEmpty || year.isEmpty) = false := by
      simp [hday.ne_nil, hne, hyear.ne_nil]
    rw [htokens, place?, hmonth, hfilled]
    rfl
  have hdecimal : IsDecimal parts.year := hyear
  have hparts : orderZone? (orderTime parts) = some parts := by
    rw [orderTime_of_isDecimal hdecimal, orderZone?_of_isDecimal hdecimal]
  refine numbers?_of_placed parts hvalid hplace hparts rfl hyear' ?_
  rw [withoutComma_of_notMem (hday.notMem (by decide))]
  exact hday'

theorem zoneOffset?_gmt : zoneOffset? "GMT".toList = some 0 := by decide +kernel

theorem numbers?_format {t : DateTime} {year : Nat} (hvalid : t.IsValid)
    (hyear : t.date.year = year) (hhigh : year < 10000) :
    numbers? (wordLists (format t).toList) =
      some ⟨fullYear year, t.date.month, t.date.day, t.hour, t.minute, t.second, some 0⟩ := by
  have htokens : splitZone (splitDashes (dropWeekday (wordLists (format t).toList))) =
      [(twoDigits t.date.day).toList, monthWord t, (toString year).toList, timeWord t,
        "GMT".toList] := by
    rw [wordLists_format hvalid hyear, dropWeekday, if_pos (.inl (by simp [dayWord]))]
    rfl
  rw [numbers?_of_ordered hvalid htokens (isDecimal_twoDigits _)
    (number?_twoDigits _ (day_lt hvalid)) (isDecimal_toString year) (number?_toString hhigh),
    zoneOffset?_gmt]

/-- Years of at least three digits are taken as they are. -/
theorem fullYear_of_le {year : Int} (hyear : 100 ≤ year) : fullYear year = year := by
  rw [fullYear, if_neg (by omega)]

/-- The numbers of a date are read as that date. -/
theorem moment_of_isValid {t : DateTime} (hvalid : t.IsValid) (hfirst : 1 ≤ t.date.year)
    (hlast : t.date.year ≤ 9999) {offset : Option Int} (hoffset : offset.getD 0 = 0) :
    (⟨t.date.year, t.date.month, t.date.day, t.hour, t.minute, t.second, offset⟩ :
      Numbers).moment = .ok ⟨t, 0⟩ := by
  have hclock := Moment.checked_of_isValid hvalid hfirst hlast
  cases offset with
  | none =>
      rw [Numbers.moment]
      dsimp only
      rw [hclock]
      rfl
  | some offset =>
      obtain rfl : offset = 0 := hoffset
      rw [Numbers.moment]
      dsimp only
      rw [hclock]
      rfl

/-- A text with the numbers of a date is read as that date. -/
theorem read_of_numbers? {text : String} {t : DateTime} (hvalid : t.IsValid)
    (hfirst : 1 ≤ t.date.year) (hlast : t.date.year ≤ 9999) (offset : Option Int)
    (hoffset : offset.getD 0 = 0)
    (hnumbers : numbers? (wordLists text.toList) =
      some ⟨t.date.year, t.date.month, t.date.day, t.hour, t.minute, t.second, offset⟩) :
    read text = .ok (some ⟨t, 0⟩) := by
  rw [read, hnumbers]
  dsimp only
  rw [moment_of_isValid hvalid hfirst hlast hoffset]

/-- What is written in a year of at least three digits is read back. -/
theorem read_format {t : DateTime} (hvalid : t.IsValid) (hfirst : 100 ≤ t.date.year)
    (hlast : t.date.year ≤ 9999) : read (format t) = .ok (some ⟨t, 0⟩) := by
  obtain ⟨year, hyear⟩ := Int.eq_ofNat_of_zero_le (a := t.date.year) (by omega)
  refine read_of_numbers? hvalid (by omega) hlast (some 0) rfl ?_
  rw [numbers?_format hvalid hyear (by omega), fullYear_of_le (by omega), hyear]

/-! ## Values that are no dates -/

/-- The parts of the date and of the time of day. -/
def Numbers.parts (n : Numbers) : List Int := [n.year, n.month, n.day, n.hour, n.minute, n.second]

/-- Some part cannot be stored. -/
def Numbers.HasLargePart (n : Numbers) : Prop := ∃ part ∈ n.parts, ¬ Moment.FitsWord part

/-- Some number cannot be stored. The zone is looked at first: if it is a day or more from UTC, the
value is no date, whatever its other numbers are. -/
def Numbers.IsOversized (n : Numbers) : Prop :=
  match n.offset with
  | none => n.HasLargePart
  | some offset =>
    ¬ Moment.FitsSpan offset ∨ (-86399 ≤ offset ∧ offset ≤ 86399) ∧ n.HasLargePart

/-- The value is written like a date, with a number that cannot be stored. -/
def IsOversized (value : String) : Prop :=
  ∃ n, numbers? (wordLists value.toList) = some n ∧ n.IsOversized

/-- What the clock of the numbers is checked with. -/
abbrev Numbers.clock (n : Numbers) : Except Fault DateTime :=
  Moment.checked n.year n.month n.day n.hour n.minute n.second 0

theorem clock_eq (n : Numbers) :
    n.clock = Moment.checkWords (n.parts ++ [0]) >>= fun _ =>
      Moment.checkRanges n.year n.month n.day n.hour n.minute n.second 0 :=
  Moment.checked_eq _ _ _ _ _ _ _

theorem clock_overflows {n : Numbers} (hlarge : n.HasLargePart) : Moment.Overflows n.clock := by
  obtain ⟨part, hpart, hlarge⟩ := hlarge
  rw [clock_eq]
  exact (Moment.checkWords_overflows ⟨part, List.mem_append_left _ hpart, hlarge⟩).bind _

theorem settles_clock {n : Numbers} (hsmall : ¬ n.HasLargePart) : Moment.Settles n.clock := by
  have hfits : ∀ part ∈ n.parts ++ [0], Moment.FitsWord part := by
    intro part hpart
    rcases List.mem_append.mp hpart with hpart | hzero
    · exact by_contra fun hlarge => hsmall ⟨part, hpart, hlarge⟩
    · rw [List.mem_singleton.mp hzero]
      exact ⟨by decide, by decide⟩
  rw [clock_eq, Moment.checkWords_of_fits hfits]
  exact Moment.settles_checkRanges _ _ _ _ _ _ _

theorem moment_overflows {n : Numbers} (hsized : n.IsOversized) : Moment.Overflows n.moment := by
  unfold Numbers.IsOversized at hsized
  unfold Numbers.moment
  split
  next hoffset =>
    rw [hoffset] at hsized
    exact (clock_overflows hsized).bind _
  next offset hoffset =>
    rw [hoffset] at hsized
    by_cases hfits : Moment.FitsSpan offset
    · obtain ⟨⟨hlow, hhigh⟩, hlarge⟩ := hsized.resolve_left (not_not_intro hfits)
      rw [Moment.checkSpan_of_fits hfits, Moment.checkRange_of_mem hlow hhigh]
      exact (clock_overflows hlarge).bind _
    · exact (Moment.checkSpan_overflows hfits).bind _

theorem settles_moment {n : Numbers} (hsized : ¬ n.IsOversized) : Moment.Settles n.moment := by
  unfold Numbers.IsOversized at hsized
  unfold Numbers.moment
  split
  next hoffset =>
    rw [hoffset] at hsized
    exact (settles_clock hsized).bind fun _ => Moment.settles_ok _
  next offset hoffset =>
    rw [hoffset] at hsized
    obtain ⟨hfits, hday⟩ := not_or.mp hsized
    rw [Moment.checkSpan_of_fits (not_not.mp hfits)]
    by_cases hrange : -86399 ≤ offset ∧ offset ≤ 86399
    · rw [Moment.checkRange_of_mem hrange.1 hrange.2]
      exact (settles_clock fun hlarge => hday ⟨hrange, hlarge⟩).bind fun _ => Moment.settles_ok _
    · rw [Moment.checkRange, if_neg hrange]
      exact Moment.settles_value _

theorem read_overflows {value : String} (hsized : IsOversized value) :
    Moment.Overflows (read value) := by
  obtain ⟨n, hn, hsized⟩ := hsized
  obtain ⟨cause, hmoment⟩ := moment_overflows hsized
  exact ⟨cause, by simp [read, hn, hmoment, isMalformed]⟩

theorem exists_read_eq_ok {value : String} (hsized : ¬ IsOversized value) :
    ∃ answer, read value = .ok answer := by
  unfold read
  split
  next => exact ⟨none, rfl⟩
  next n hn =>
    have hsettles := settles_moment fun hn' => hsized ⟨n, hn, hn'⟩
    split
    next moment _ => exact ⟨some moment, rfl⟩
    next fault hmoment =>
      obtain ⟨cause, rfl⟩ := hsettles fault hmoment
      exact ⟨none, rfl⟩

/-- Reading a date fails for numbers that are too large to be stored, and for nothing else. -/
theorem exists_read_eq_error_iff (value : String) :
    (∃ fault, read value = .error fault) ↔ IsOversized value := by
  constructor
  · rintro ⟨fault, hread⟩
    by_contra hsized
    obtain ⟨answer, hanswer⟩ := exists_read_eq_ok hsized
    cases hread.symm.trans hanswer
  · intro hsized
    obtain ⟨cause, hread⟩ := read_overflows hsized
    exact ⟨_, hread⟩

theorem exists_overflow_of_read {value : String} {fault : Fault}
    (hread : read value = .error fault) : ∃ cause, fault = .overflow cause := by
  obtain ⟨cause, hoverflow⟩ := read_overflows ((exists_read_eq_error_iff value).mp ⟨fault, hread⟩)
  exact ⟨cause, Except.error.inj (hread.symm.trans hoverflow)⟩

/-! ## Dates of counts of milliseconds -/

theorem ofMillis_of_inYears {millis : Int} (hyears : Moment.InYears 1 9999 millis) :
    ofMillis millis = .ok (format (Moment.utc millis)) := by
  rw [ofMillis, Moment.ofMillis_of_inYears hyears]
  rfl

theorem read_format_utc {millis : Int} (hyears : Moment.InYears 100 9999 millis) :
    read (format (Moment.utc millis)) = .ok (some ⟨Moment.utc millis, 0⟩) :=
  read_format (Moment.utc_isValid millis) hyears.1 hyears.2

end VersionedAssets.HttpDate
