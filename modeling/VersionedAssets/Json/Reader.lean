import VersionedAssets.Json
import VersionedAssets.Text.Digit
import VersionedAssets.Text.Utf8

/-! # Reading JSON

The value that a JSON text stands for. A numeral with a point or an exponent is a float, every other
one an integer; floats that are not finite are written as words. Texts may escape UTF-16 units; two
of them that belong together are one character.
-/

namespace VersionedAssets.Json

/-- Is the character a blank between the parts of a JSON text? -/
def isMargin (c : Char) : Bool := c = ' ' || c = '\t' || c = '\n' || c = '\r'

/-- The characters from the first one on that is not a blank. -/
def skipMargin (cs : List Char) : List Char := cs.dropWhile isMargin

/-! ## Texts -/

/-- The value of a hexadecimal digit. -/
def hexDigit? (c : Char) : Option Nat :=
  let n := c.toNat
  if 0x30 ≤ n ∧ n ≤ 0x39 then some (n - 0x30)
  else if 0x41 ≤ n ∧ n ≤ 0x46 then some (n - 0x37)
  else if 0x61 ≤ n ∧ n ≤ 0x66 then some (n - 0x57)
  else none

/-- The unit that hexadecimal digits write. -/
def readUnit? (digits : List Char) : Option Nat :=
  digits.foldlM (fun n c => (hexDigit? c).map (16 * n + ·)) 0

/-- The character that stands after a backslash for another one. -/
def unescape? (c : Char) : Option Nat :=
  [('"', 0x22), ('\\', 0x5C), ('/', 0x2F), ('b', 0x8), ('f', 0xC), ('n', 0xA), ('r', 0xD),
    ('t', 0x9)].lookup c

/-- The units and characters up to the closing quote, after those in `done`, which are in reverse,
and what follows the quote. -/
def readUnits (done : List Nat) : List Char → Option (List Nat × List Char)
  | [] => none
  | '"' :: rest => some (done.reverse, rest)
  | '\\' :: 'u' :: a :: b :: c :: d :: rest => do
    readUnits ((← readUnit? [a, b, c, d]) :: done) rest
  | '\\' :: c :: rest => do readUnits ((← unescape? c) :: done) rest
  | c :: rest => readUnits (c.toNat :: done) rest

/-- The characters of units. A unit of a pair that stands alone is replaced. -/
def joinUnits : List Nat → List Char
  | [] => []
  | high :: low :: rest =>
    if 0xD800 ≤ high ∧ high < 0xDC00 ∧ 0xDC00 ≤ low ∧ low < 0xE000 then
      Char.ofNat (0x10000 + (high - 0xD800) * 0x400 + (low - 0xDC00)) :: joinUnits rest
    else (if 0xD800 ≤ high ∧ high < 0xE000 then Text.replacement else Char.ofNat high) ::
      joinUnits (low :: rest)
  | [unit] => [if 0xD800 ≤ unit ∧ unit < 0xE000 then Text.replacement else Char.ofNat unit]

/-- A text after its opening quote, and what follows it. -/
def readText (cs : List Char) : Option (String × List Char) :=
  (readUnits [] cs).map fun (units, rest) => (String.ofList (joinUnits units), rest)

/-! ## Numerals -/

/-- The number that decimal digits write. -/
def ofDigits (digits : List Char) : Nat := digits.foldl (fun n c => 10 * n + (c.toNat - 0x30)) 0

/-- Digits at the front, of which there has to be one, and what follows them. -/
def readDigits (cs : List Char) : Option (List Char × List Char) :=
  let digits := cs.takeWhile Text.isAsciiDigit
  if digits.isEmpty then none else some (digits, cs.dropWhile Text.isAsciiDigit)

/-- The digits after a point, if there is one, and what follows them. -/
def readFraction : List Char → Option (Option (List Char) × List Char)
  | '.' :: rest => (readDigits rest).map fun (digits, rest) => (some digits, rest)
  | cs => some (none, cs)

/-- An exponent, if there is one, and what follows it. -/
def readExponent (cs : List Char) : Option (Option Int × List Char) :=
  match cs with
  | [] => some (none, [])
  | mark :: rest =>
    if mark = 'e' ∨ mark = 'E' then
      match rest with
      | '-' :: rest => (readDigits rest).map fun (n, rest) => (some (-(ofDigits n : Int)), rest)
      | '+' :: rest => (readDigits rest).map fun (n, rest) => (some (ofDigits n : Int), rest)
      | rest => (readDigits rest).map fun (n, rest) => (some (ofDigits n : Int), rest)
    else some (none, cs)

/-- The float nearest to a decimal. -/
def nearest (digits : Nat) (power : Int) : Float :=
  Float.ofScientific digits (power < 0) power.natAbs

/-- A numeral without its sign, and what follows it. -/
def readMagnitude (negative : Bool) (cs : List Char) : Option (Json × List Char) := do
  let (whole, rest) ← readDigits cs
  let (fraction, rest) ← readFraction rest
  let (exponent, rest) ← readExponent rest
  if fraction.isNone && exponent.isNone then
    return (.int (if negative then -(ofDigits whole : Int) else ofDigits whole), rest)
  else
    let places := fraction.getD []
    let x := nearest (ofDigits (whole ++ places)) (exponent.getD 0 - places.length)
    return (.float (if negative then -x else x), rest)

/-- A numeral and what follows it. -/
def readNumber : List Char → Option (Json × List Char)
  | '-' :: rest => readMagnitude true rest
  | cs => readMagnitude false cs

/-! ## Values -/

/-- A word at the front that stands for a value, and what follows it. -/
def readWord (word : String) (value : Json) (cs : List Char) : Option (Json × List Char) :=
  if word.toList.isPrefixOf cs then some (value, cs.drop word.length) else none

mutual

/-- A value and what follows it. -/
def readValue : Nat → List Char → Option (Json × List Char)
  | 0, _ => none
  | fuel + 1, cs =>
    match skipMargin cs with
    | '"' :: rest => (readText rest).map fun (s, rest) => (.text s, rest)
    | '[' :: rest =>
      match skipMargin rest with
      | ']' :: rest => some (.array [], rest)
      | rest => readItems fuel [] rest
    | '\x7b' :: rest =>
      match skipMargin rest with
      | '\x7d' :: rest => some (.object [], rest)
      | rest => readMembers fuel [] rest
    | cs =>
      (readWord "null" .null cs).or <| (readWord "true" (.bool true) cs).or <|
        (readWord "false" (.bool false) cs).or <| (readWord "NaN" (.float (0 / 0)) cs).or <|
        (readWord "Infinity" (.float (1 / 0)) cs).or <|
        (readWord "-Infinity" (.float (-1 / 0)) cs).or (readNumber cs)

/-- The items up to the closing bracket, after those in `done`, which are in reverse. -/
def readItems : Nat → List Json → List Char → Option (Json × List Char)
  | 0, _, _ => none
  | fuel + 1, done, cs => do
    let (item, rest) ← readValue fuel cs
    match skipMargin rest with
    | ',' :: rest => readItems fuel (item :: done) rest
    | ']' :: rest => return (.array (item :: done).reverse, rest)
    | _ => none

/-- The members up to the closing brace, after those in `done`, which are in reverse. -/
def readMembers : Nat → List (String × Json) → List Char → Option (Json × List Char)
  | 0, _, _ => none
  | fuel + 1, done, cs =>
    match skipMargin cs with
    | '"' :: rest => do
      let (name, rest) ← readText rest
      match skipMargin rest with
      | ':' :: rest =>
        let (value, rest) ← readValue fuel rest
        match skipMargin rest with
        | ',' :: rest => readMembers fuel ((name, value) :: done) rest
        | '\x7d' :: rest => return (.object ((name, value) :: done).reverse, rest)
        | _ => none
      | _ => none
    | _ => none

end

/-- The value that a text stands for; every step into it takes at least one character. -/
def read? (text : String) : Option Json :=
  match readValue (text.length + 1) text.toList with
  | some (value, rest) => if (skipMargin rest).isEmpty then some value else none
  | none => none

end VersionedAssets.Json
