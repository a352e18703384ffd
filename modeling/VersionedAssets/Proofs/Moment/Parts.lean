import VersionedAssets.Moment
import VersionedAssets.Proofs.Calendar

/-! # The parts of a moment

The numbers that a moment is built from are checked twice: first each of them has to be stored, and
then each has to be in its range. So a number that is too large to be stored is an overflow wherever
it stands, and only if there is none are numbers out of range refused as values.
-/

namespace VersionedAssets.Moment

/-! ## Storing parts -/

/-- The number can be stored in 32 bits with a sign. -/
def FitsWord (n : Int) : Prop := -wordLimit ≤ n ∧ n < wordLimit

/-- The seconds are at most 999999999 whole days. -/
def FitsSpan (seconds : Int) : Prop :=
  -999999999 ≤ seconds / Calendar.daySeconds ∧ seconds / Calendar.daySeconds ≤ 999999999

/-- A number was too large to be stored. -/
def Overflows {α : Type} (outcome : Except Fault α) : Prop :=
  ∃ cause, outcome = .error (.overflow cause)

/-- There is a value, or a number out of its range. -/
def Settles {α : Type} (outcome : Except Fault α) : Prop :=
  ∀ fault, outcome = .error fault → ∃ cause, fault = .value cause

section

variable {α β : Type} {outcome : Except Fault α}

theorem settles_ok (a : α) : Settles (.ok a : Except Fault α) := fun _ heq => nomatch heq

theorem settles_value (cause : ValueFault) :
    Settles (.error (.value cause) : Except Fault α) :=
  fun _ heq => ⟨cause, (Except.error.inj heq).symm⟩

theorem Settles.bind {next : α → Except Fault β} (hsettles : Settles outcome)
    (hnext : ∀ a, Settles (next a)) : Settles (outcome >>= next) := by
  cases outcome with
  | error fault =>
      intro other heq
      exact hsettles other (congrArg Except.error (Except.error.inj heq))
  | ok a => exact hnext a

theorem Overflows.bind (hoverflows : Overflows outcome) (next : α → Except Fault β) :
    Overflows (outcome >>= next) := by
  obtain ⟨cause, rfl⟩ := hoverflows
  exact ⟨cause, rfl⟩

end

theorem checkWord_of_fits {n : Int} (hfits : FitsWord n) : checkWord n = .ok () := by
  unfold FitsWord wordLimit at hfits
  rw [checkWord, longLimit, wordLimit, if_neg (by omega), if_neg (by omega), if_neg (by omega)]

theorem checkWord_overflows {n : Int} (hlarge : ¬ FitsWord n) : Overflows (checkWord n) := by
  unfold FitsWord at hlarge
  unfold checkWord
  split
  · exact ⟨_, rfl⟩
  · split
    · exact ⟨_, rfl⟩
    · split
      · exact ⟨_, rfl⟩
      · omega

theorem settles_checkRange (low high n : Int) (fault : ValueFault) :
    Settles (checkRange low high n fault) := by
  unfold checkRange
  split
  · exact settles_ok _
  · exact settles_value fault

theorem checkRange_of_mem {low high n : Int} (hlow : low ≤ n) (hhigh : n ≤ high)
    (fault : ValueFault) : checkRange low high n fault = .ok () := if_pos ⟨hlow, hhigh⟩

theorem checkSpan_of_fits {seconds : Int} (hfits : FitsSpan seconds) :
    checkSpan seconds = .ok () := by
  unfold FitsSpan at hfits
  rw [checkSpan, wordLimit, if_neg (by omega), if_neg (by omega)]

theorem checkSpan_overflows {seconds : Int} (hlarge : ¬ FitsSpan seconds) :
    Overflows (checkSpan seconds) := by
  unfold FitsSpan at hlarge
  unfold checkSpan
  dsimp only
  split
  · exact ⟨_, rfl⟩
  · rw [if_pos (by omega)]
    exact ⟨_, rfl⟩

/-! ## Checking parts -/

/-- Refuses numbers that do not fit 32 bits with a sign. -/
def checkWords (numbers : List Int) : Except Fault PUnit := do
  for n in numbers do
    checkWord n

theorem checkWords_cons (n : Int) (rest : List Int) :
    checkWords (n :: rest) = checkWord n >>= fun _ => checkWords rest := by
  simp only [checkWords, List.forIn_cons, bind_assoc, pure_bind]

theorem checkWords_of_fits {numbers : List Int} (hfits : ∀ n ∈ numbers, FitsWord n) :
    checkWords numbers = .ok ⟨⟩ := by
  induction numbers with
  | nil => rfl
  | cons n rest ih =>
      obtain ⟨hn, hrest⟩ := List.forall_mem_cons.mp hfits
      rw [checkWords_cons, checkWord_of_fits hn]
      exact ih hrest

theorem checkWords_overflows {numbers : List Int} (hlarge : ∃ n ∈ numbers, ¬ FitsWord n) :
    Overflows (checkWords numbers) := by
  induction numbers with
  | nil => simp at hlarge
  | cons n rest ih =>
      rw [checkWords_cons]
      by_cases hn : FitsWord n
      · rw [checkWord_of_fits hn]
        obtain ⟨m, hm, hlarge⟩ := hlarge
        refine ih ⟨m, (List.mem_cons.mp hm).resolve_left ?_, hlarge⟩
        rintro rfl
        exact hlarge hn
      · exact (checkWord_overflows hn).bind _

/-- The parts of a date and time in the order in which they are checked. -/
def checkRanges (year month day hour minute second microsecond : Int) :
    Except Fault DateTime := do
  checkRange 1 9999 year (.year year)
  checkRange 1 12 month .month
  checkRange 1 (Calendar.monthLength year month.toNat) day .day
  checkRange 0 23 hour .hour
  checkRange 0 59 minute .minute
  checkRange 0 59 second .second
  checkRange 0 999999 microsecond .microsecond
  return ⟨⟨year, month.toNat, day.toNat⟩, hour.toNat, minute.toNat, second.toNat⟩

theorem checked_eq (year month day hour minute second microsecond : Int) :
    checked year month day hour minute second microsecond =
      checkWords [year, month, day, hour, minute, second, microsecond] >>= fun _ =>
        checkRanges year month day hour minute second microsecond := by
  simp only [checked, checkWords, checkRanges, bind_pure_comp, bind_map_left]

theorem settles_checkRanges (year month day hour minute second microsecond : Int) :
    Settles (checkRanges year month day hour minute second microsecond) := by
  have hrange := settles_checkRange
  exact (hrange _ _ _ _).bind fun _ => (hrange _ _ _ _).bind fun _ =>
    (hrange _ _ _ _).bind fun _ => (hrange _ _ _ _).bind fun _ =>
    (hrange _ _ _ _).bind fun _ => (hrange _ _ _ _).bind fun _ =>
    (hrange _ _ _ _).bind fun _ => settles_ok _

/-- The parts of a date and time pass every check. -/
theorem checked_of_isValid {t : DateTime} (hvalid : t.IsValid) (hfirst : 1 ≤ t.date.year)
    (hlast : t.date.year ≤ 9999) :
    checked t.date.year t.date.month t.date.day t.hour t.minute t.second 0 = .ok t := by
  obtain ⟨⟨hmonth, hmonth', hday, hday'⟩, hhour, hminute, hsecond⟩ := hvalid
  have hlength := Calendar.monthLength_le t.date.year t.date.month
  have hfits : ∀ n ∈ [t.date.year, t.date.month, t.date.day, t.hour, t.minute, t.second, 0],
      FitsWord n := by
    simp only [List.forall_mem_cons, FitsWord, wordLimit]
    refine ⟨?_, ?_, ?_, ?_, ?_, ?_, ?_, by simp⟩ <;> omega
  rw [checked_eq, checkWords_of_fits hfits]
  refine (?_ : checkRanges t.date.year t.date.month t.date.day t.hour t.minute t.second 0 = .ok t)
  simp only [checkRanges, Int.toNat_natCast]
  rw [checkRange_of_mem hfirst hlast,
    checkRange_of_mem (by omega) (by omega), checkRange_of_mem (by omega) (by omega),
    checkRange_of_mem (by omega) (by omega), checkRange_of_mem (by omega) (by omega),
    checkRange_of_mem (by omega) (by omega), checkRange_of_mem (by omega) (by omega)]
  rfl

end VersionedAssets.Moment
