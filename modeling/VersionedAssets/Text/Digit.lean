import VersionedAssets.Text.DigitTable

/-! # Digits

Which characters are digits and which of them have a place in a decimal numeral. A superscript two
is a digit, but no numeral is written with it.
-/

namespace VersionedAssets.Text

/-- The value of a decimal digit of any script. -/
def digitValue? (c : Char) : Option Nat :=
  if c.toNat < 0x80 then
    if 0x30 ≤ c.toNat ∧ c.toNat ≤ 0x39 then some (c.toNat - 0x30) else none
  else
    (DigitTable.zeros.find? fun start => start ≤ c.toNat && c.toNat < start + 10).map (c.toNat - ·)

/-- Is the character a digit, with or without a place in a numeral? -/
def isDigit (c : Char) : Bool :=
  (digitValue? c).isSome ||
    DigitTable.otherDigits.any fun (first, last) => first ≤ c.toNat && c.toNat ≤ last

/-- Is the text one or more digits and nothing else? -/
def allDigits (text : String) : Bool := !text.isEmpty && text.toList.all isDigit

/-- The ten digits of ASCII. -/
def isAsciiDigit (c : Char) : Bool := 0x30 ≤ c.toNat && c.toNat ≤ 0x39

end VersionedAssets.Text
