import VersionedAssets.Proofs.HttpDate

/-! # The three layouts of dates

Besides the one format in which dates are written there are two older ones: that of `asctime`, and
that of RFC 850 with a year of two digits. All three name the same instant, as far as the reader
can tell the year from what is written of it.
-/

namespace VersionedAssets

open Text

namespace HttpDate

/-! ## Writing -/

/-- The days of the week in full, from Monday on. -/
def fullDayNames : List String :=
  ["Monday", "Tuesday", "Wednesday", "Thursday", "Friday", "Saturday", "Sunday"]

/-- A number below one hundred in two places, the first of which may be blank. -/
def blankPadded (n : Nat) : String := if n < 10 then " " ++ toString n else toString n

/-- The time of day in hours, minutes and seconds. -/
def timeOfDay (t : DateTime) : String :=
  twoDigits t.hour ++ ":" ++ twoDigits t.minute ++ ":" ++ twoDigits t.second

/-- A date and time as `asctime` lays it out, as in `Thu Jan  1 00:00:00 1970`. -/
def asctime (t : DateTime) : String :=
  dayNames.getD (Calendar.weekday t.date) "" ++ " " ++ monthNames.getD (t.date.month - 1) "" ++
    " " ++ blankPadded t.date.day ++ " " ++ timeOfDay t ++ " " ++ toString t.date.year

/-- A date and time as RFC 850 lays it out, as in `Thursday, 01-Jan-70 00:00:00 GMT`. -/
def rfc850 (t : DateTime) : String :=
  fullDayNames.getD (Calendar.weekday t.date) "" ++ ", " ++ twoDigits t.date.day ++ "-" ++
    monthNames.getD (t.date.month - 1) "" ++ "-" ++ twoDigits (t.date.year % 100).toNat ++ " " ++
    timeOfDay t ++ " GMT"

/-! ## The layout of `asctime` -/

/-- A day of the week is written as one word, which the reader drops. -/
theorem dayName_spec : ∀ n < 7, (dayNames.getD n "").toList ≠ [] ∧
    lowerDayNames.contains (String.ofList (lowered (dayNames.getD n "").toList)) = true := by
  decide +kernel

/-- A day of the month is no name of a month. -/
theorem dayNumber_spec : ∀ n < 100, lowered (toString n).toList = (toString n).toList ∧
    monthNumber? (lowered (toString n).toList) = none := by
  decide +kernel

theorem toList_timeOfDay (t : DateTime) : (timeOfDay t).toList = timeWord t := by
  simp [timeOfDay, timeWord]

theorem wordLists_cons_of_blank {blank : Char} (hblank : isBlank blank = true)
    (cs : List Char) : wordLists (blank :: cs) = wordLists cs := by
  simp [wordLists, runLists, hblank]

theorem wordLists_blankPadded (n : Nat) (rest : List Char) :
    wordLists ((blankPadded n).toList ++ ' ' :: rest) = (toString n).toList :: wordLists rest := by
  have hblank : isBlank ' ' = true := by decide
  have hnumber := isDecimal_toString n
  have hword := wordLists_append_cons hnumber.noBlanks hnumber.ne_nil hblank rest
  unfold blankPadded
  split
  · rw [String.toList_append]
    exact (wordLists_cons_of_blank hblank _).trans hword
  · exact hword

theorem wordLists_asctime {t : DateTime} {year : Nat} (hvalid : t.IsValid)
    (hyear : t.date.year = year) :
    wordLists (asctime t).toList =
      [(dayNames.getD (Calendar.weekday t.date) "").toList, monthWord t,
        (toString t.date.day).toList, timeWord t, (toString year).toList] := by
  have hblank : isBlank ' ' = true := by decide
  have hweekday := weekday_lt t.date
  have hyear' := isDecimal_toString year
  obtain ⟨hmonth, hmonth', -⟩ := monthWord_spec hvalid
  have htext : (asctime t).toList =
      (dayNames.getD (Calendar.weekday t.date) "").toList ++ ' ' :: (monthWord t ++
        ' ' :: ((blankPadded t.date.day).toList ++ ' ' :: (timeWord t ++
          ' ' :: (toString t.date.year).toList))) := by
    simp [asctime, monthWord, ← toList_timeOfDay]
  have hnumeral : (toString t.date.year).toList = (toString year).toList := by
    rw [hyear]
    rfl
  rw [htext, hnumeral,
    wordLists_append_cons (noBlanks_dayName _ hweekday) (dayName_spec _ hweekday).1 hblank,
    wordLists_append_cons hmonth hmonth' hblank, wordLists_blankPadded,
    wordLists_append_cons (noBlanks_timeWord t) (by simp [timeWord]) hblank,
    wordLists_of_noBlanks hyear'.noBlanks hyear'.ne_nil]

/-- A time of day has a colon, though not as its first character. -/
theorem idxOf?_timeWord (t : DateTime) : ∃ i, (timeWord t).idxOf? ':' = some (i + 1) := by
  have hhour := isDecimal_twoDigits t.hour
  obtain ⟨c, rest, hlist⟩ := List.exists_cons_of_ne_nil hhour.ne_nil
  have hc : c ≠ ':' := by
    rintro rfl
    exact hhour.notMem (by decide) (hlist ▸ List.mem_cons_self)
  have hmem : ':' ∈ rest ++ ':' :: ((twoDigits t.minute).toList ++
      ':' :: (twoDigits t.second).toList) := by simp
  obtain ⟨i, hi⟩ := Option.isSome_iff_exists.mp (List.isSome_idxOf?.mpr hmem)
  refine ⟨i, ?_⟩
  rw [timeWord, hlist, List.cons_append, List.idxOf?_cons, hi]
  simp [hc]

theorem tokens_asctime {t : DateTime} {year : Nat} (hvalid : t.IsValid)
    (hyear : t.date.year = year) :
    splitZone (splitDashes (dropWeekday (wordLists (asctime t).toList))) =
      [monthWord t, (toString t.date.day).toList, timeWord t, (toString year).toList, []] := by
  have hyear' := isDecimal_toString year
  have hsign : zoneSign (toString year).toList = none := by
    rw [zoneSign, if_neg (by simpa using hyear'.notMem (c := '+') (by decide)),
      List.idxOf?_eq_none_iff]
    exact hyear'.notMem (by decide)
  rw [wordLists_asctime hvalid hyear, dropWeekday,
    if_pos (.inr (dayName_spec _ (weekday_lt t.date)).2)]
  change splitZone [_, _, _, _] = _
  rw [splitZone, hsign]

/-- Month and day change places, and so do time and year. There is no zone. -/
theorem numbers?_asctime {t : DateTime} {year : Nat} (hvalid : t.IsValid)
    (hyear : t.date.year = year) (hhigh : year < 10000) :
    numbers? (wordLists (asctime t).toList) =
      some ⟨fullYear year, t.date.month, t.date.day, t.hour, t.minute, t.second, none⟩ := by
  obtain ⟨-, hne, hmonth⟩ := monthWord_spec hvalid
  obtain ⟨i, hcolon⟩ := idxOf?_timeWord t
  have hday := day_lt hvalid
  obtain ⟨hlowered, hnoMonth⟩ := dayNumber_spec _ hday
  let placed : Parts :=
    ⟨(toString t.date.day).toList, monthWord t, timeWord t, (toString year).toList, []⟩
  let parts : Parts :=
    ⟨(toString t.date.day).toList, monthWord t, (toString year).toList, timeWord t, []⟩
  have hplace : place? (splitZone (splitDashes (dropWeekday (wordLists (asctime t).toList)))) =
      some (placed, t.date.month) := by
    have hfilled : ((monthWord t).isEmpty || (toString t.date.day).toList.isEmpty ||
        (timeWord t).isEmpty) = false := by
      simp [hne, timeWord]
    rw [tokens_asctime hvalid hyear, place?, hnoMonth, hmonth, hfilled, hlowered]
    rfl
  have hparts : orderZone? (orderTime placed) = some parts := by
    have hordered : orderTime placed = parts := by rw [orderTime, hcolon]
    have hdecimal : IsDecimal parts.year := isDecimal_toString year
    rw [hordered, orderZone?_of_isDecimal hdecimal]
  have hnoComma : withoutComma placed.day = (toString t.date.day).toList :=
    withoutComma_of_notMem ((isDecimal_toString _).notMem (by decide))
  have hnoZone : zoneOffset? [] = none := by decide +kernel
  rw [numbers?_of_placed parts hvalid hplace hparts rfl (number?_toString hhigh)
    (hnoComma ▸ number?_toString (by omega)), hnoZone]

/-! ## The layout of RFC 850 -/

theorem noBlanks_fullDayName : ∀ n < 7, NoBlanks (fullDayNames.getD n "").toList := by
  decide +kernel

/-- The short name of a month has no dash in it. -/
theorem dash_notMem_monthName : ∀ n < 12, '-' ∉ (monthNames.getD n "").toList := by
  decide +kernel

/-- A date with dashes in it. -/
def dashedWord (t : DateTime) : List Char :=
  (twoDigits t.date.day).toList ++ '-' :: (monthWord t ++
    '-' :: (twoDigits (t.date.year % 100).toNat).toList)

theorem wordLists_rfc850 {t : DateTime} (hvalid : t.IsValid) :
    wordLists (rfc850 t).toList =
      [(fullDayNames.getD (Calendar.weekday t.date) "").toList ++ [','], dashedWord t, timeWord t,
        "GMT".toList] := by
  have hblank : isBlank ' ' = true := by decide
  have hcomma : NoBlanks [','] := by decide
  have hdash : NoBlanks ['-'] := by decide
  have hweekday : NoBlanks ((fullDayNames.getD (Calendar.weekday t.date) "").toList ++ [',']) :=
    (noBlanks_fullDayName _ (weekday_lt t.date)).append hcomma
  have hdashed : NoBlanks (dashedWord t) :=
    (isDecimal_twoDigits _).noBlanks.append (hdash.append ((monthWord_spec hvalid).1.append
      (hdash.append (isDecimal_twoDigits _).noBlanks)))
  have htext : (rfc850 t).toList =
      ((fullDayNames.getD (Calendar.weekday t.date) "").toList ++ [',']) ++ ' ' ::
        (dashedWord t ++ ' ' :: (timeWord t ++ ' ' :: "GMT".toList)) := by
    simp [rfc850, dashedWord, monthWord, ← toList_timeOfDay]
  rw [htext, wordLists_append_cons hweekday (by simp) hblank,
    wordLists_append_cons hdashed (by simp [dashedWord]) hblank,
    wordLists_append_cons (noBlanks_timeWord t) (by simp [timeWord]) hblank,
    wordLists_of_noBlanks (by decide) (by decide)]

theorem pieceLists_dashedWord {t : DateTime} (hvalid : t.IsValid) :
    pieceLists '-' (dashedWord t) =
      [(twoDigits t.date.day).toList, monthWord t,
        (twoDigits (t.date.year % 100).toNat).toList] := by
  have hdigits (n : Nat) : '-' ∉ (twoDigits n).toList := (isDecimal_twoDigits n).notMem (by decide)
  have hmonth : '-' ∉ monthWord t := by
    have hle := hvalid.date.month_le
    exact dash_notMem_monthName _ (by omega)
  rw [dashedWord, pieceLists_append_cons, pieceLists_append_cons, pieceLists_of_notMem (hdigits _),
    pieceLists_of_notMem hmonth, pieceLists_of_notMem (hdigits _)]
  rfl

/-- The year is what two digits stand for. -/
theorem numbers?_rfc850 {t : DateTime} (hvalid : t.IsValid) :
    numbers? (wordLists (rfc850 t).toList) =
      some ⟨fullYear (t.date.year % 100), t.date.month, t.date.day, t.hour, t.minute, t.second,
        some 0⟩ := by
  have htokens : splitZone (splitDashes (dropWeekday (wordLists (rfc850 t).toList))) =
      [(twoDigits t.date.day).toList, monthWord t,
        (twoDigits (t.date.year % 100).toNat).toList, timeWord t, "GMT".toList] := by
    rw [wordLists_rfc850 hvalid, dropWeekday, if_pos (.inl (by simp)), splitDashes,
      pieceLists_dashedWord hvalid]
    rfl
  have hyear : number? (twoDigits (t.date.year % 100).toNat).toList = some (t.date.year % 100) := by
    rw [number?_twoDigits _ (by omega), Int.toNat_of_nonneg (by omega)]
  rw [numbers?_of_ordered hvalid htokens (isDecimal_twoDigits _)
    (number?_twoDigits _ (day_lt hvalid)) (isDecimal_twoDigits _) hyear, zoneOffset?_gmt]

end HttpDate

end VersionedAssets
