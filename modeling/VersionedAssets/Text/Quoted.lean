import VersionedAssets.Text.PrintTable

/-! # Quoted texts

A text between quotes for use in messages. Single quotes are used unless the text holds a single
quote and no double one; the quote in use and the backslash are escaped, and so is every character
that is not printed.
-/

namespace VersionedAssets.Text.Quoted

/-- The hexadecimal digit, in lower case, of a number below sixteen. -/
def hexDigit (n : Nat) : Char := if n < 10 then Char.ofNat (0x30 + n) else Char.ofNat (0x57 + n)

/-- The last `width` hexadecimal digits of a number. -/
def hex : Nat → Nat → List Char
  | 0, _ => []
  | width + 1, n => hex width (n / 16) ++ [hexDigit (n % 16)]

/-- Is the character printed as it is? -/
def isPrinted (c : Char) : Bool :=
  !(PrintTable.unprintable.any fun (first, last) => first ≤ c.toNat && c.toNat ≤ last)

/-- The quote that surrounds the text. -/
def quoteOf (cs : List Char) : Char :=
  if cs.contains '\'' && !cs.contains '"' then '"' else '\''

/-- One character between quotes. -/
def escape (quote c : Char) : List Char :=
  if c = quote ∨ c = '\\' then ['\\', c]
  else if c = '\n' then ['\\', 'n']
  else if c = '\r' then ['\\', 'r']
  else if c = '\t' then ['\\', 't']
  else if isPrinted c then [c]
  else if c.toNat < 0x100 then '\\' :: 'x' :: hex 2 c.toNat
  else if c.toNat < 0x10000 then '\\' :: 'u' :: hex 4 c.toNat
  else '\\' :: 'U' :: hex 8 c.toNat

end Quoted

/-- The text between quotes, with what cannot stand there escaped. -/
def quoted (text : String) : String :=
  let quote := Quoted.quoteOf text.toList
  String.ofList (quote :: text.toList.flatMap (Quoted.escape quote) ++ [quote])

end VersionedAssets.Text
