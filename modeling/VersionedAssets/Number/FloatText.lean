import VersionedAssets.Number.Shortest

/-! # The text of a float

Floats are written in one of two ways: with the fewest digits that read back, or with two decimal
places. The first is positional from 0.0001 up to below ten to the sixteenth and keeps a `.0` on
whole numbers; outside of that range it has an exponent of at least two digits and a sign.
-/

namespace VersionedAssets.Number.FloatText

/-- Digits with the point after the first `point` of them; zeros fill up either side. -/
def positional (digits : List Char) (point : Int) : List Char :=
  if point ≤ 0 then '0' :: '.' :: List.replicate (-point).toNat '0' ++ digits
  else
    let before := digits.take point.toNat
    let after := digits.drop point.toNat
    before ++ List.replicate (point.toNat - before.length) '0' ++
      '.' :: (if after.isEmpty then ['0'] else after)

/-- Digits with one before the point, and the power of ten of that digit. -/
def scientific (digits : List Char) (power : Int) : List Char :=
  let size := (toString power.natAbs).toList
  digits.take 1 ++ (if digits.length ≤ 1 then [] else '.' :: digits.drop 1) ++
    'e' :: (if power < 0 then '-' else '+') :: (if size.length < 2 then '0' :: size else size)

/-- The digits of a number without the zeros at its end. -/
def significant (n : Nat) : List Char :=
  ((toString n).toList.reverse.dropWhile (· = '0')).reverse

/-- The shortest text of a finite double. -/
def ofBinary64 (x : Binary64) : String :=
  let sign := if x.negative then ['-'] else []
  if x.mantissa = 0 then String.ofList (sign ++ ['0', '.', '0'])
  else
    let (n, power) := Shortest.digits x
    let digits := significant n
    let point := (toString n).length + power
    String.ofList <| sign ++
      if -4 < point ∧ point ≤ 16 then positional digits point else scientific digits (point - 1)

/-- The shortest text of a float that is not finite. -/
def ofInfinite (x : Float) (infinity notNumber : String) : String :=
  if x.isNaN then notNumber else if x < 0 then "-" ++ infinity else infinity

/-- The shortest text that reads back as the float. -/
def shortest (x : Float) : String :=
  match Binary64.ofFloat? x with
  | some b => ofBinary64 b
  | none => ofInfinite x "inf" "nan"

/-- The hundredths of a double, rounded with a half going to the even neighbour. -/
def hundredths (x : Binary64) : Nat :=
  let (n, d) := x.scaled 100
  roundHalfEven n d

/-- The text of a double with two decimal places. -/
def twoPlacesOf (x : Binary64) : String :=
  let n := hundredths x
  let places := (toString (n % 100 + 100)).toList.drop 1
  String.ofList <| (if x.negative then ['-'] else []) ++ (toString (n / 100)).toList ++
    '.' :: places

/-- The text of a float with two decimal places. -/
def twoPlaces (x : Float) : String :=
  match Binary64.ofFloat? x with
  | none => ofInfinite x "inf" "nan"
  | some b => twoPlacesOf b

/-- The float nearest to the value with two decimal places. A float that is not finite stays. -/
def roundToTwoPlaces (x : Float) : Float :=
  match Binary64.ofFloat? x with
  | none => x
  | some b =>
    let rounded := Float.ofScientific (hundredths b) true 2
    if b.negative then -rounded else rounded

end VersionedAssets.Number.FloatText
