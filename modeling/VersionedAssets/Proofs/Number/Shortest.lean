import Mathlib.Algebra.Order.Ring.Nat
import VersionedAssets.Number.FloatText
import VersionedAssets.Proofs.Number.Quotient

/-! # Shortest decimals are not zero

A double that is not zero is written with digits that are not all zero. A grid on which none of its
decimals is read back is passed over, and the last grid is so fine that the double is not below the
first of its multiples.
-/

namespace VersionedAssets.Number

theorem log2_of_lt {m k : Nat} (hm : m < twoTo k) (hk : 0 < k) : m.log2 < k := by
  rcases Nat.eq_zero_or_pos m with rfl | hpos
  · rwa [Nat.log2_zero]
  · exact (Nat.log2_lt (Nat.ne_of_gt hpos)).mpr hm

namespace Binary64

/-- The order of magnitude of a double: the power of two of its first binary place. -/
def firstPlace (x : Binary64) : Int := x.mantissa.log2 + x.exponent

/-- The places of a float lie between those of the smallest and of the largest one. -/
theorem firstPlace_of_ofFloat? {f : Float} {x : Binary64} (hx : ofFloat? f = some x) :
    -1074 ≤ x.firstPlace ∧ x.firstPlace ≤ 1024 := by
  have hfraction : f.toBits.toNat % twoTo 52 < twoTo 52 := Nat.mod_lt _ (twoTo_pos 52)
  have hpower : f.toBits.toNat / twoTo 52 % twoTo 11 < twoTo 11 := Nat.mod_lt _ (twoTo_pos 11)
  have hhalf : twoTo 52 + f.toBits.toNat % twoTo 52 < twoTo 53 := by
    have htwice : twoTo 53 = twoTo 52 + twoTo 52 := rfl
    omega
  have hlast : twoTo 11 = 2048 := rfl
  unfold ofFloat? at hx
  dsimp only at hx
  split at hx
  next => cases hx
  next hfinite =>
    split at hx
    next =>
      obtain rfl := Option.some.inj hx
      have hlog := log2_of_lt hfraction (by decide)
      simp only [firstPlace]
      omega
    next =>
      obtain rfl := Option.some.inj hx
      have hlog := log2_of_lt hhalf (by decide)
      simp only [firstPlace]
      omega

end Binary64

namespace Shortest

theorem tenTo_pos (n : Nat) : 0 < tenTo n := Nat.pow_pos (by decide)

/-- Three decimal places take ten binary ones at most. -/
theorem tenTo_le_twoTo {m n : Nat} (hplaces : 10 * ((m + 2) / 3) ≤ n) : tenTo m ≤ twoTo n :=
  calc
    10 ^ m ≤ 10 ^ (3 * ((m + 2) / 3)) := Nat.pow_le_pow_right (by decide) (by omega)
    _ = (10 ^ 3) ^ ((m + 2) / 3) := Nat.pow_mul 10 3 _
    _ ≤ (2 ^ 10) ^ ((m + 2) / 3) := Nat.pow_le_pow_left (by decide) _
    _ = 2 ^ (10 * ((m + 2) / 3)) := (Nat.pow_mul 2 10 _).symm
    _ ≤ 2 ^ n := Nat.pow_le_pow_right (by decide) hplaces

/-- Thirteen binary places take four decimal ones at most. -/
theorem twoTo_le_tenTo {m n : Nat} (hplaces : 4 * ((m + 12) / 13) ≤ n) : twoTo m ≤ tenTo n :=
  calc
    2 ^ m ≤ 2 ^ (13 * ((m + 12) / 13)) := Nat.pow_le_pow_right (by decide) (by omega)
    _ = (2 ^ 13) ^ ((m + 12) / 13) := Nat.pow_mul 2 13 _
    _ ≤ (10 ^ 4) ^ ((m + 12) / 13) := Nat.pow_le_pow_left (by decide) _
    _ = 10 ^ (4 * ((m + 12) / 13)) := (Nat.pow_mul 10 4 _).symm
    _ ≤ 10 ^ n := Nat.pow_le_pow_right (by decide) hplaces

/-- A power of ten sixteen places below the estimate from a power of two is below that power. -/
theorem tenTo_mul_twoTo_le {log : Nat} {exponent power : Int}
    (hplace : -1074 ≤ log + exponent ∧ log + exponent ≤ 1024)
    (hpower : power ≤ (log + exponent) * 30103 / 100000 - 16) :
    tenTo power.toNat * twoTo (-exponent).toNat ≤
      twoTo (log + exponent.toNat) * tenTo (-power).toNat := by
  rcases Int.le_total 0 power with hwhole | hfraction
  · have hten : tenTo power.toNat ≤ twoTo (log + exponent).toNat := tenTo_le_twoTo (by omega)
    have hsplit : log + exponent.toNat = (log + exponent).toNat + (-exponent).toNat := by omega
    calc
      _ ≤ twoTo (log + exponent).toNat * twoTo (-exponent).toNat := Nat.mul_le_mul_right _ hten
      _ = twoTo (log + exponent.toNat) := by rw [← twoTo_add, hsplit]
      _ ≤ _ := Nat.le_mul_of_pos_right _ (tenTo_pos _)
  · have hten : twoTo (-(log + exponent)).toNat ≤ tenTo (-power).toNat :=
      twoTo_le_tenTo (by omega)
    have hone : tenTo power.toNat = 1 := by
      rw [Int.toNat_of_nonpos hfraction]
      rfl
    calc
      _ = twoTo (-exponent).toNat := by rw [hone, Nat.one_mul]
      _ ≤ twoTo (log + exponent.toNat + (-(log + exponent)).toNat) := twoTo_le (by omega)
      _ = twoTo (log + exponent.toNat) * twoTo (-(log + exponent)).toNat := twoTo_add _ _
      _ ≤ _ := Nat.mul_le_mul_left _ hten

/-- The magnitude is at most two places above its estimate. -/
theorem magnitude_le (x : Binary64) : magnitude x ≤ x.firstPlace * 30103 / 100000 + 2 := by
  unfold magnitude Binary64.firstPlace
  dsimp only
  split_ifs <;> omega

section

variable {x : Binary64} (hx : x.mantissa ≠ 0)

include hx

/-- Zero is not read back as a double that is not zero. -/
theorem readsBack_zero (power : Int) : readsBack x 0 power = false := by
  have hlow : 0 < (interval x).1 := by
    unfold interval
    dsimp only
    split <;> omega
  have hlower : 0 < ofQuarters (interval x).1 power x.exponent :=
    Nat.mul_pos (Nat.mul_pos hlow (twoTo_pos _)) (tenTo_pos _)
  have hvalue : ofDecimal 0 power x.exponent = 0 := by simp [ofDecimal]
  unfold readsBack
  dsimp only
  rw [hvalue, decide_eq_false (Nat.not_le.mpr hlower),
    decide_eq_false (Nat.not_lt.mpr (Nat.zero_le _))]
  simp

theorem onGrid?_ne_zero {power : Int} {units : Nat} (hunits : onGrid? x power = some units) :
    units ≠ 0 := by
  have hback {units : Nat} (hread : readsBack x units power = true) : units ≠ 0 := by
    rintro rfl
    rw [readsBack_zero hx] at hread
    cases hread
  unfold onGrid? at hunits
  dsimp only at hunits
  split at hunits
  next hbelow _ =>
    obtain rfl := Option.some.inj hunits
    have hne := hback hbelow
    unfold nearer
    dsimp only
    split_ifs <;> omega
  next hbelow _ => exact Option.some.inj hunits ▸ hback hbelow
  next => exact Option.some.inj hunits ▸ Nat.succ_ne_zero _
  next => cases hunits

theorem search_ne_zero (fuel : Nat) {power : Int} (hlast : unitsBelow x (power - fuel) ≠ 0) :
    (search x fuel power).1 ≠ 0 := by
  induction fuel generalizing power with
  | zero => simpa [search] using hlast
  | succ fuel ih =>
      unfold search
      split
      next hunits => exact onGrid?_ne_zero hx hunits
      next =>
        refine ih ?_
        rwa [Int.sub_sub, Int.add_comm 1, ← Int.natCast_succ]

/-- A power of ten sixteen places below the estimate is not above the double. -/
theorem unitsBelow_ne_zero (hplace : -1074 ≤ x.firstPlace ∧ x.firstPlace ≤ 1024) {power : Int}
    (hpower : power ≤ x.firstPlace * 30103 / 100000 - 16) : unitsBelow x power ≠ 0 := by
  have hmantissa : twoTo x.mantissa.log2 ≤ x.mantissa := Nat.log2_self_le hx
  have hdecimal : ofDecimal 1 power x.exponent ≤ ofQuarters (4 * x.mantissa) power x.exponent :=
    calc
      _ = 4 * (tenTo power.toNat * twoTo (-x.exponent).toNat) := by
        rw [ofDecimal, Nat.mul_one, Nat.mul_assoc]
      _ ≤ 4 * (twoTo (x.mantissa.log2 + x.exponent.toNat) * tenTo (-power).toNat) :=
        Nat.mul_le_mul_left 4 (tenTo_mul_twoTo_le hplace hpower)
      _ = 4 * twoTo x.mantissa.log2 * twoTo x.exponent.toNat * tenTo (-power).toNat := by
        simp only [twoTo_add, Nat.mul_assoc]
      _ ≤ 4 * x.mantissa * twoTo x.exponent.toNat * tenTo (-power).toNat :=
        Nat.mul_le_mul_right _ (Nat.mul_le_mul_right _ (Nat.mul_le_mul_left 4 hmantissa))
  have hpos : 0 < ofDecimal 1 power x.exponent :=
    Nat.mul_pos (Nat.mul_pos (by decide) (tenTo_pos _)) (twoTo_pos _)
  exact Nat.ne_of_gt (Nat.div_pos hdecimal hpos)

/-- The digits of a double that is not zero are not zero. -/
theorem digits_ne_zero (hplace : -1074 ≤ x.firstPlace ∧ x.firstPlace ≤ 1024) :
    (digits x).1 ≠ 0 := by
  have hmagnitude := magnitude_le x
  exact search_ne_zero hx 17 (unitsBelow_ne_zero hx hplace (by omega))

end

end Shortest

end VersionedAssets.Number
