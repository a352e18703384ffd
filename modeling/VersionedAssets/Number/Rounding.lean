/-! # Rounding a quotient

The nearest whole number to a quotient of natural numbers, where a quotient half way between two
whole numbers goes to the even one.
-/

namespace VersionedAssets.Number

/-- The nearest whole number to `n / d`; a half goes to the even neighbour. -/
def roundHalfEven (n d : Nat) : Nat :=
  let q := n / d
  let r := n % d
  if 2 * r < d then q else if d < 2 * r then q + 1 else if q % 2 = 0 then q else q + 1

/-- Twice the distance from a quotient to its rounding is at most one unit. -/
theorem roundHalfEven_near (n d : Nat) (hd : 0 < d) :
    2 * n ≤ (2 * roundHalfEven n d + 1) * d ∧ 2 * roundHalfEven n d * d ≤ 2 * n + d := by
  have hn : d * (n / d) + n % d = n := Nat.div_add_mod n d
  have hr : n % d < d := Nat.mod_lt n hd
  unfold roundHalfEven
  generalize n / d = q at hn ⊢
  generalize n % d = r at hn hr ⊢
  subst hn
  have hq : 2 * q * d = 2 * (d * q) := by rw [Nat.mul_assoc, Nat.mul_comm q d]
  have hq' : (2 * q + 1) * d = 2 * (d * q) + d := by rw [Nat.add_mul, hq, Nat.one_mul]
  have hq1 : 2 * (q + 1) * d = 2 * (d * q) + 2 * d := by
    rw [Nat.mul_assoc, Nat.add_mul, Nat.mul_comm q d]; omega
  have hq1' : (2 * (q + 1) + 1) * d = 2 * (d * q) + 3 * d := by
    rw [Nat.add_mul, hq1]; omega
  dsimp only
  split
  · rw [hq, hq']; omega
  · split
    · rw [hq1, hq1']; omega
    · split
      · rw [hq, hq']; omega
      · rw [hq1, hq1']; omega

/-- The integer nearest to `n / d` for an integer `n`; a half goes to the even neighbour. -/
def roundHalfEvenInt (n : Int) (d : Nat) : Int :=
  if n < 0 then -(roundHalfEven n.natAbs d : Int) else (roundHalfEven n.natAbs d : Int)

end VersionedAssets.Number
