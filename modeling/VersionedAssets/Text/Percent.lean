import VersionedAssets.Text.Utf8
import VersionedAssets.Text.Pieces

/-! # Percent coding

Bytes written as `%` and two hexadecimal digits. Writing keeps letters, digits, `_`, `.`, `-`, `~`
and `/`. Reading takes digits of either case and leaves a `%` that two such digits do not follow.
-/

namespace VersionedAssets.Text.Percent

/-- The bytes that are written as they are. -/
def isPlain (b : UInt8) : Bool :=
  let n := b.toNat
  (0x41 ≤ n && n ≤ 0x5A) || (0x61 ≤ n && n ≤ 0x7A) || (0x30 ≤ n && n ≤ 0x39) ||
    n == 0x5F || n == 0x2E || n == 0x2D || n == 0x7E || n == 0x2F

/-- The hexadecimal digit, in upper case, of a number below sixteen. -/
def upperHexDigit (n : Nat) : Char := Char.ofNat (if n < 10 then 0x30 + n else 0x37 + n)

/-- The written form of one byte. -/
def encodeByte (b : UInt8) : List Char :=
  if isPlain b then [Char.ofNat b.toNat]
  else ['%', upperHexDigit (b.toNat / 16), upperHexDigit (b.toNat % 16)]

/-- A text with the bytes of its UTF-8 form percent-coded. -/
def encode (text : String) : String := String.ofList ((utf8 text).flatMap encodeByte)

/-- The value of a hexadecimal digit of either case, given as a byte. -/
def hexValue? (b : UInt8) : Option Nat :=
  let n := b.toNat
  if 0x30 ≤ n ∧ n ≤ 0x39 then some (n - 0x30)
  else if 0x41 ≤ n ∧ n ≤ 0x46 then some (n - 0x37)
  else if 0x61 ≤ n ∧ n ≤ 0x66 then some (n - 0x57)
  else none

/-- The bytes with each `%` and two hexadecimal digits read as one byte. -/
def decodeBytes : Bytes → Bytes
  | 0x25 :: high :: low :: rest =>
    match hexValue? high, hexValue? low with
    | some h, some l => UInt8.ofNat (16 * h + l) :: decodeBytes rest
    | _, _ => 0x25 :: decodeBytes (high :: low :: rest)
  | b :: rest => b :: decodeBytes rest
  | [] => []

/-- The text that a percent-coded text stands for. Bytes that form no character are replaced. -/
def decode (text : String) : String := ofUtf8Replacing (decodeBytes (utf8 text))

/-- The name or value that a piece of a query stands for: `+` is a blank, the rest is
percent-coded. -/
def decodeField (piece : List Char) : String :=
  decode (swap '+' ' ' (String.ofList piece))

end VersionedAssets.Text.Percent
