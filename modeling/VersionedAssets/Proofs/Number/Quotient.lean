import Mathlib.Algebra.Order.Ring.Nat
import VersionedAssets.Number.Binary64

/-! # Quotients in double precision

Rounding keeps between whole bounds, so a quotient that was rounded to a double and then to a whole
number does not pass one. How near the double lies is known from its last binary place, which is the
finer the smaller the quotient is.
-/

namespace VersionedAssets.Number

theorem le_roundHalfEven {n d low : Nat} (hd : 0 < d) (hlow : low * d ≤ n) :
    low ≤ roundHalfEven n d := by
  have hnear := (roundHalfEven_near n d hd).1
  have htwice : 2 * low * d ≤ (2 * roundHalfEven n d + 1) * d := by
    rw [Nat.mul_assoc]
    omega
  have hle := Nat.le_of_mul_le_mul_right htwice hd
  omega

theorem roundHalfEven_le {n d high : Nat} (hd : 0 < d) (hhigh : n ≤ high * d) :
    roundHalfEven n d ≤ high := by
  have hnear := (roundHalfEven_near n d hd).2
  have htwice : 2 * roundHalfEven n d * d ≤ (2 * high + 1) * d := by
    rw [Nat.add_mul, Nat.mul_assoc 2 high]
    omega
  have hle := Nat.le_of_mul_le_mul_right htwice hd
  omega

theorem twoTo_pos (n : Nat) : 0 < twoTo n := Nat.two_pow_pos n

theorem twoTo_add (m n : Nat) : twoTo (m + n) = twoTo m * twoTo n := Nat.pow_add 2 m n

theorem twoTo_le {m n : Nat} (hle : m ≤ n) : twoTo m ≤ twoTo n :=
  Nat.pow_le_pow_right (by decide) hle

namespace Binary64

/-- The last binary place of a quotient below a power of two lies 53 places below that power. -/
theorem lastPlace_le {n d s : Nat} (hlt : n < d * twoTo s) :
    lastPlace n d ≤ max (-1074) ((s : Int) - 53) := by
  have hlog : n.log2 ≤ d.log2 + s := by
    rcases Nat.eq_zero_or_pos n with rfl | hn
    · simp
    · have hd : d < twoTo (d.log2 + 1) := Nat.lt_log2_self
      have hbelow : n < twoTo (d.log2 + 1 + s) := by
        rw [twoTo_add]
        exact Nat.lt_trans hlt ((Nat.mul_lt_mul_right (twoTo_pos s)).mpr hd)
      have hlog := (Nat.log2_lt (Nat.ne_of_gt hn)).mpr hbelow
      omega
  unfold lastPlace
  dsimp only
  split
  next => omega
  next habove =>
    have hless : (n.log2 : Int) - d.log2 < s := by
      refine Int.not_le.mp fun hge => ?_
      apply habove
      have hplaces : s ≤ ((n.log2 : Int) - d.log2).toNat := by omega
      have hle := Nat.mul_le_mul_left d (twoTo_le hplaces)
      rw [quotientBelow, if_pos (by omega), decide_eq_true_eq]
      omega
    omega

/-- The double nearest to a quotient that is not too large counts units of a fine enough power
of two. -/
theorem exists_ofQuotient? (negative : Bool) {n d s : Nat} (hs : s ≤ 52)
    (hlt : n < d * twoTo s) :
    ∃ places, 53 - s ≤ places ∧
      ofQuotient? negative n d =
        some ⟨negative, roundHalfEven (n * twoTo places) d, -(places : Int)⟩ := by
  have hlast := lastPlace_le hlt
  refine ⟨(-lastPlace n d).toNat, by omega, ?_⟩
  have hplaces : -((-lastPlace n d).toNat : Int) = lastPlace n d := by omega
  unfold ofQuotient?
  rw [if_neg (by omega), hplaces, quotientUnits, if_neg (by omega)]

section Places

variable (negative : Bool) (m places : Nat)

@[simp] theorem wholePart_places :
    wholePart ⟨negative, m, -(places : Int)⟩ = m / twoTo places := by
  rcases Nat.eq_zero_or_pos places with rfl | hplaces
  · simp [wholePart, twoTo]
  · rw [wholePart, if_neg (by dsimp only; omega), Int.neg_neg, Int.toNat_natCast]

@[simp] theorem fractionPart_places :
    fractionPart ⟨negative, m, -(places : Int)⟩ = (m % twoTo places, twoTo places) := by
  rcases Nat.eq_zero_or_pos places with rfl | hplaces
  · simp [fractionPart, twoTo, Nat.mod_one]
  · rw [fractionPart, if_neg (by dsimp only; omega), Int.neg_neg, Int.toNat_natCast]

@[simp] theorem scaled_places (factor : Nat) :
    scaled ⟨negative, m, -(places : Int)⟩ factor = (m * factor, twoTo places) := by
  rcases Nat.eq_zero_or_pos places with rfl | hplaces
  · simp [scaled, twoTo]
  · rw [scaled, if_neg (by dsimp only; omega), Int.neg_neg, Int.toNat_natCast]

end Places

/-- Rounding to a double and then to a whole number keeps between whole bounds. -/
theorem exists_rounded_between {n d low high : Nat} (hd : 0 < d) (hlow : low * d ≤ n)
    (hhigh : n ≤ high * d) (hsmall : high < twoTo 52) :
    ∃ x rounded, ofQuotient? false n d = some x ∧
      roundHalfEven (x.scaled 1).1 (x.scaled 1).2 = rounded ∧ low ≤ rounded ∧ rounded ≤ high := by
  have hlt : n < d * twoTo 52 := by
    rw [Nat.mul_comm]
    exact Nat.lt_of_le_of_lt hhigh ((Nat.mul_lt_mul_right hd).mpr hsmall)
  obtain ⟨places, -, hx⟩ := exists_ofQuotient? false (Nat.le_refl 52) hlt
  refine ⟨_, _, hx, rfl, ?_⟩
  rw [scaled_places, Nat.mul_one]
  constructor
  · refine le_roundHalfEven (twoTo_pos _) (le_roundHalfEven hd ?_)
    rw [Nat.mul_right_comm]
    exact Nat.mul_le_mul_right _ hlow
  · refine roundHalfEven_le (twoTo_pos _) (roundHalfEven_le hd ?_)
    rw [Nat.mul_right_comm]
    exact Nat.mul_le_mul_right _ hhigh

end Binary64

end VersionedAssets.Number
