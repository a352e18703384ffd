import VersionedAssets.Text.Blank
import VersionedAssets.Text.Digit
import VersionedAssets.Text.Quoted

/-! # Decimal numerals

Reading an integer from a text: blanks around it, one sign, decimal digits of any script, and single
underscores between digits. Numerals of more than 4300 digits are refused.
-/

namespace VersionedAssets.Text.Numeral

/-- Why a text is not read as an integer. -/
inductive Fault where
  /-- The text is no numeral. -/
  | malformed (text : String)
  /-- The numeral has too many digits. -/
  | tooLong (digits : Nat)
  deriving DecidableEq, Repr

/-- The most digits that a numeral may have. -/
def maxDigits : Nat := 4300

/-- The text of the refusal. The quoted numeral is cut after 200 characters. -/
def Fault.message : Fault → String
  | .malformed text =>
    let shown := String.ofList ((quoted text).toList.take 200)
    s!"invalid literal for int() with base 10: {shown}"
  | .tooLong digits =>
    s!"Exceeds the limit ({maxDigits} digits) for integer string conversion: " ++
      s!"value has {digits} digits; use sys.set_int_max_str_digits() to increase the limit"

/-- The blanks that may stand around a numeral: all but the separators U+001C to U+001F. -/
def isMargin (c : Char) : Bool := isBlank c && !(0x1C ≤ c.toNat && c.toNat ≤ 0x1F)

/-- The digits of a run in which single underscores may stand between digits, and what follows the
run; none if an underscore stands elsewhere. `inside` says that a digit came just before. -/
def digitRun : Bool → List Char → Option (List Nat × List Char)
  | inside, [] => if inside then some ([], []) else none
  | inside, c :: rest =>
    if c = '_' then
      if inside then digitRun false rest else none
    else match digitValue? c with
      | some d => (digitRun true rest).map fun (ds, after) => (d :: ds, after)
      | none => if inside then some ([], c :: rest) else none

/-- The sign of a numeral and what follows it. -/
def sign : List Char → Int × List Char
  | '+' :: rest => (1, rest)
  | '-' :: rest => (-1, rest)
  | cs => (1, cs)

/-- The number that the digits write, the most significant first. -/
def ofDigits (digits : List Nat) : Nat := digits.foldl (fun n d => 10 * n + d) 0

/-- The integer that a text writes. -/
def read (text : String) : Except Fault Int :=
  let (factor, body) := sign (text.toList.dropWhile isMargin)
  match digitRun false body with
  | none => .error (.malformed text)
  | some (digits, after) =>
    if maxDigits < digits.length then .error (.tooLong digits.length)
    else if after.all isMargin then .ok (factor * ofDigits digits)
    else .error (.malformed text)

end VersionedAssets.Text.Numeral
