import VersionedAssets.Number.Rounding

/-! # Binary floating point

A finite double-precision number as a sign, a mantissa and a power of two, so that exact arithmetic
on natural numbers can decide how it is rounded and written.
-/

namespace VersionedAssets.Number

/-- Two to the power `n`. -/
def twoTo (n : Nat) : Nat := Nat.pow 2 n

/-- The number `± mantissa · 2 ^ exponent`. -/
structure Binary64 where
  negative : Bool
  mantissa : Nat
  exponent : Int
  deriving DecidableEq, Repr

namespace Binary64

/-- The value of a float; none if it is infinite or not a number. -/
def ofFloat? (x : Float) : Option Binary64 :=
  let bits := x.toBits.toNat
  let negative := twoTo 63 ≤ bits
  let power : Nat := bits / twoTo 52 % twoTo 11
  let fraction := bits % twoTo 52
  if power = twoTo 11 - 1 then none
  else if power = 0 then some ⟨negative, fraction, -1074⟩
  else some ⟨negative, twoTo 52 + fraction, (power : Int) - 1075⟩

/-- The nearest whole multiple of `2 ^ e` to `n / d`, counted in that unit. -/
def quotientUnits (n d : Nat) (e : Int) : Nat :=
  if 0 ≤ e then roundHalfEven n (d * twoTo e.toNat) else roundHalfEven (n * twoTo (-e).toNat) d

/-- Is `n / d` below `2 ^ k`? -/
def quotientBelow (n d : Nat) (k : Int) : Bool :=
  if 0 ≤ k then n < d * twoTo k.toNat else n * twoTo (-k).toNat < d

/-- The exponent of the last of the 53 binary places that hold `n / d`. -/
def lastPlace (n d : Nat) : Int :=
  let k : Int := (n.log2 : Int) - d.log2
  max (-1074) (if quotientBelow n d k then k - 53 else k - 52)

/-- The double nearest to `n / d` in absolute value; none if it is too large. -/
def ofQuotient? (negative : Bool) (n d : Nat) : Option Binary64 :=
  let e := lastPlace n d
  let m := quotientUnits n d e
  if 0 < e + 53 - 1024 ∨ (e + 53 = 1024 ∧ twoTo 53 ≤ m) then none else some ⟨negative, m, e⟩

/-- The whole part, without the sign. -/
def wholePart (x : Binary64) : Nat :=
  if 0 ≤ x.exponent then x.mantissa * twoTo x.exponent.toNat
  else x.mantissa / twoTo (-x.exponent).toNat

/-- The number truncated toward zero. -/
def truncate (x : Binary64) : Int := if x.negative then -(x.wholePart : Int) else x.wholePart

/-- The part after the point, as a numerator and a denominator, without the sign. -/
def fractionPart (x : Binary64) : Nat × Nat :=
  if 0 ≤ x.exponent then (0, 1)
  else (x.mantissa % twoTo (-x.exponent).toNat, twoTo (-x.exponent).toNat)

/-- The absolute value times `factor` as a quotient. -/
def scaled (x : Binary64) (factor : Nat) : Nat × Nat :=
  if 0 ≤ x.exponent then (x.mantissa * twoTo x.exponent.toNat * factor, 1)
  else (x.mantissa * factor, twoTo (-x.exponent).toNat)

end Binary64

end VersionedAssets.Number
