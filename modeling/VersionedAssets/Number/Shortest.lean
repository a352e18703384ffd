import VersionedAssets.Number.Binary64

/-! # Shortest decimals

The fewest decimal digits that read back as a given double, and of those the nearest to it. A
decimal reads back if it lies in the interval of the reals that round to the double; the ends
belong to the interval when the mantissa is even.
-/

namespace VersionedAssets.Number.Shortest

/-- Ten to the power `n`. -/
def tenTo (n : Nat) : Nat := Nat.pow 10 n

/-- Four times the lower and upper end of the interval that rounds to `mantissa · 2 ^ exponent`, in
units of `2 ^ exponent`. Below a power of two the neighbours are closer. -/
def interval (x : Binary64) : Nat × Nat :=
  let lower := if x.mantissa = twoTo 52 ∧ -1074 < x.exponent then 4 * x.mantissa - 1
    else 4 * x.mantissa - 2
  (lower, 4 * x.mantissa + 2)

/-- `digits · 10 ^ power` in quarters of a common unit with `ofQuarters`. -/
def ofDecimal (digits : Nat) (power exponent : Int) : Nat :=
  4 * digits * tenTo power.toNat * twoTo (-exponent).toNat

/-- `quarters / 4 · 2 ^ exponent` in quarters of a common unit with `ofDecimal`. -/
def ofQuarters (quarters : Nat) (power exponent : Int) : Nat :=
  quarters * twoTo exponent.toNat * tenTo (-power).toNat

/-- Does `digits · 10 ^ power` read back as the double? -/
def readsBack (x : Binary64) (digits : Nat) (power : Int) : Bool :=
  let (low, high) := interval x
  let lower := ofQuarters low power x.exponent
  let upper := ofQuarters high power x.exponent
  let value := ofDecimal digits power x.exponent
  if x.mantissa % 2 = 0 then lower ≤ value && value ≤ upper else lower < value && value < upper

/-- The largest multiple of `10 ^ power` up to the double, counted in that unit. -/
def unitsBelow (x : Binary64) (power : Int) : Nat :=
  ofQuarters (4 * x.mantissa) power x.exponent / ofDecimal 1 power x.exponent

/-- The nearer of two neighbouring multiples of `10 ^ power`; a tie goes to the even one. -/
def nearer (x : Binary64) (units : Nat) (power : Int) : Nat :=
  let value := ofQuarters (4 * x.mantissa) power x.exponent
  let below := value - ofDecimal units power x.exponent
  let above := ofDecimal (units + 1) power x.exponent - value
  if below < above then units else if above < below then units + 1
  else if units % 2 = 0 then units else units + 1

/-- The multiple of `10 ^ power` that reads back as the double and is nearest to it. -/
def onGrid? (x : Binary64) (power : Int) : Option Nat :=
  let units := unitsBelow x power
  match readsBack x units power, readsBack x (units + 1) power with
  | true, true => some (nearer x units power)
  | true, false => some units
  | false, true => some (units + 1)
  | false, false => none

/-- Is the double below `10 ^ power`? -/
def belowPower (x : Binary64) (power : Int) : Bool :=
  ofQuarters (4 * x.mantissa) power x.exponent < ofDecimal 1 power x.exponent

/-- The number of digits before the point, from an estimate by the binary logarithm. It is zero or
negative for a number below one tenth and less. -/
def magnitude (x : Binary64) : Int :=
  let estimate := (x.mantissa.log2 + x.exponent) * 30103 / 100000
  if belowPower x estimate then estimate
  else if belowPower x (estimate + 1) then estimate + 1
  else estimate + 2

/-- The first grid, from coarse to fine, with a decimal that reads back; `fuel` more grids are
tried. -/
def search (x : Binary64) : Nat → Int → Nat × Int
  | 0, power => (unitsBelow x power, power)
  | fuel + 1, power =>
    match onGrid? x power with
    | some digits => (digits, power)
    | none => search x fuel (power - 1)

/-- The digits of a positive double and the power of ten of the last one. Seventeen digits are
always enough. -/
def digits (x : Binary64) : Nat × Int := search x 17 (magnitude x - 1)

end VersionedAssets.Number.Shortest
