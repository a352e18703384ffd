import VersionedAssets.Moment
import VersionedAssets.Proofs.Calendar
import VersionedAssets.Proofs.Number.Quotient

/-! # Moments of a count of milliseconds

Dividing by a thousand in double precision could carry the last milliseconds of a second into the
next one. In the years that moments can have it does not: doubles are fine enough there, so a count
of milliseconds falls into the second that whole division gives.
-/

namespace VersionedAssets.Moment

open Number Binary64

section WholeSeconds

variable (negative : Bool) {m places : Nat}

theorem wholeSeconds_of_whole (hwhole : m % twoTo places = 0) :
    wholeSeconds ⟨negative, m, -(places : Int)⟩ =
      if negative then -((m / twoTo places : Nat) : Int) else (m / twoTo places : Nat) := by
  have hzero : ∃ x rounded, ofQuotient? false 0 (twoTo places) = some x ∧
      roundHalfEven (x.scaled 1).1 (x.scaled 1).2 = rounded ∧ 0 ≤ rounded ∧ rounded ≤ 0 :=
    exists_rounded_between (twoTo_pos places) (by simp) (by simp) (by decide)
  obtain ⟨x, rounded, hx, hrounded, -, hle⟩ := hzero
  obtain rfl := Nat.le_zero.mp hle
  cases negative <;> simp [wholeSeconds, truncate, hwhole, hx, hrounded]

/-- A part after the point that is not within a millionth of a second carries nothing. -/
theorem wholeSeconds_of_between (hlow : twoTo places ≤ m % twoTo places * 1000000)
    (hhigh : m % twoTo places * 1000000 ≤ 999999 * twoTo places) :
    wholeSeconds ⟨negative, m, -(places : Int)⟩ =
      if negative then -((m / twoTo places : Nat) : Int) - 1 else (m / twoTo places : Nat) := by
  obtain ⟨x, rounded, hx, hrounded, hpos, hlt⟩ :=
    exists_rounded_between (twoTo_pos places) (by rwa [Nat.one_mul]) hhigh (by decide)
  have hnonzero : rounded ≠ 0 := by omega
  have hcarry : ¬ 1000000 ≤ rounded := by omega
  cases negative <;> simp [wholeSeconds, truncate, hx, hrounded, hnonzero, hcarry]

end WholeSeconds

/-- Where doubles are much finer than a thousandth, dividing by a thousand loses no second. -/
theorem exists_wholeSeconds (negative : Bool) {n : Nat} (hn : n < 1000 * twoTo 39) :
    ∃ x, ofQuotient? negative n 1000 = some x ∧
      wholeSeconds x =
        if negative then -(((n + 999) / 1000 : Nat) : Int) else (n / 1000 : Nat) := by
  obtain ⟨places, hplaces, hx⟩ := exists_ofQuotient? negative (by decide : 39 ≤ 52) hn
  refine ⟨_, hx, ?_⟩
  have hunit : 16384 ≤ twoTo places := twoTo_le (m := 14) (by omega)
  have hnear := roundHalfEven_near (n * twoTo places) 1000 (by decide)
  have hmod : n % 1000 < 1000 := Nat.mod_lt n (by decide)
  have hn' : n = 1000 * (n / 1000) + n % 1000 := (Nat.div_add_mod n 1000).symm
  generalize roundHalfEven (n * twoTo places) 1000 = m at hnear ⊢
  have hsplit : n * twoTo places =
      1000 * (n / 1000 * twoTo places) + n % 1000 * twoTo places := by
    rw [← Nat.mul_assoc, ← Nat.add_mul, Nat.div_add_mod]
  rcases Nat.eq_zero_or_pos (n % 1000) with hr | hr
  · -- whole seconds are doubles themselves
    obtain rfl : m = n / 1000 * twoTo places := by
      rw [hr] at hsplit
      omega
    rw [wholeSeconds_of_whole negative (Nat.mul_mod_left _ _),
      Nat.mul_div_cancel _ (twoTo_pos places)]
    split <;> omega
  · have hrest : twoTo places ≤ n % 1000 * twoTo places := Nat.le_mul_of_pos_left _ hr
    have hrest' : n % 1000 * twoTo places ≤ 999 * twoTo places :=
      Nat.mul_le_mul_right _ (by omega)
    obtain ⟨f, rfl⟩ : ∃ f, m = n / 1000 * twoTo places + f :=
      Nat.exists_eq_add_of_le (by omega)
    have hf : f < twoTo places := by omega
    have hfraction : (n / 1000 * twoTo places + f) % twoTo places = f := by
      rw [Nat.mul_add_mod_self_right, Nat.mod_eq_of_lt hf]
    have hwhole : (n / 1000 * twoTo places + f) / twoTo places = n / 1000 := by
      rw [Nat.mul_comm, Nat.mul_add_div (twoTo_pos places), Nat.div_eq_of_lt hf, Nat.add_zero]
    rw [wholeSeconds_of_between negative (by rw [hfraction]; omega) (by rw [hfraction]; omega),
      hwhole]
    split <;> omega

/-- Between about 15000 BC and AD 19000 a count of milliseconds falls into the second that it lies
in. -/
theorem ofMillis_of_small {millis : Int} (hsmall : millis.natAbs < 1000 * twoTo 39) :
    ofMillis millis = ofSeconds (millis / 1000) := by
  obtain ⟨x, hx, hseconds⟩ := exists_wholeSeconds (decide (millis < 0)) hsmall
  unfold ofMillis
  rw [hx]
  dsimp only
  rw [hseconds]
  congr 1
  simp only [decide_eq_true_eq]
  split <;> omega

/-- The date and time in UTC of the second that a count of milliseconds lies in. -/
def utc (millis : Int) : DateTime := Calendar.ofSeconds (millis / 1000)

/-- The count of milliseconds lies in one of the years, in UTC. -/
def InYears (first last millis : Int) : Prop :=
  first ≤ (utc millis).date.year ∧ (utc millis).date.year ≤ last

instance (first last : Int) : DecidablePred (InYears first last) := fun millis =>
  inferInstanceAs
    (Decidable (first ≤ (utc millis).date.year ∧ (utc millis).date.year ≤ last))

theorem utc_isValid (millis : Int) : (utc millis).IsValid := Calendar.ofSeconds_isValid _

theorem InYears.of_le {first first' last millis : Int} (hyears : InYears first last millis)
    (hle : first' ≤ first) : InYears first' last millis :=
  ⟨hle.trans hyears.1, hyears.2⟩

theorem ofSeconds_of_inYears {millis : Int} (hyears : InYears 1 9999 millis) :
    ofSeconds (millis / 1000) = .ok (utc millis) := by
  obtain ⟨hlow, hhigh⟩ := Calendar.number_bounds hyears.1 hyears.2
  obtain ⟨hfirst, hlast⟩ := hyears
  unfold Calendar.daySeconds at hlow hhigh
  unfold utc at hfirst hlast
  rw [ofSeconds, longLimit, wordLimit, if_neg (by omega)]
  dsimp only
  rw [if_neg (by omega), if_pos ⟨hfirst, hlast⟩, utc]

/-- A count of milliseconds in the years of moments is the moment of its second. -/
theorem ofMillis_of_inYears {millis : Int} (hyears : InYears 1 9999 millis) :
    ofMillis millis = .ok (utc millis) := by
  obtain ⟨hlow, hhigh⟩ := Calendar.number_bounds hyears.1 hyears.2
  have hlimit : 1000 * twoTo 39 = 549755813888000 := by decide
  unfold Calendar.daySeconds at hlow hhigh
  rw [ofMillis_of_small (by omega), ofSeconds_of_inYears hyears]

theorem toSeconds_utc (millis : Int) : toSeconds ⟨utc millis, 0⟩ = millis / 1000 := by
  rw [toSeconds, utc, Calendar.toSeconds_ofSeconds, Int.sub_zero]

end VersionedAssets.Moment
