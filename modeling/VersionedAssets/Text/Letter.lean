import VersionedAssets.Text.CaseTable

/-! # Letter case

Lower and upper case of whole texts. A character may change into several, as `ß` into `SS`, and the
capital sigma has a lower case of its own at the end of a word.
-/

namespace VersionedAssets.Text

/-- The code point that the first matching shift leads to. -/
def shifted (table : List CaseTable.Shift) (n : Nat) : Option Nat :=
  (table.find? fun s => s.first ≤ n && n ≤ s.last && (n - s.first) % s.stride == 0).map
    fun s => ((n : Int) + s.shift).toNat

/-- The lower case of a character that stands alone. -/
def lowerChar (c : Char) : List Char :=
  if c.toNat < 0x80 then [if 'A' ≤ c ∧ c ≤ 'Z' then Char.ofNat (c.toNat + 32) else c]
  else if c.toNat = 0x130 then ['i', Char.ofNat 0x307]
  else [((shifted CaseTable.lower c.toNat).map Char.ofNat).getD c]

/-- The upper case of a character. -/
def upperChar (c : Char) : List Char :=
  if c.toNat < 0x80 then [if 'a' ≤ c ∧ c ≤ 'z' then Char.ofNat (c.toNat - 32) else c]
  else match CaseTable.upperExpansions.lookup c.toNat with
    | some expansion => expansion.map Char.ofNat
    | none => [((shifted CaseTable.upper c.toNat).map Char.ofNat).getD c]

/-- Is the code point of the character in one of the ranges? -/
def inRanges (ranges : List (Nat × Nat)) (c : Char) : Bool :=
  ranges.any fun (first, last) => first ≤ c.toNat && c.toNat ≤ last

/-- Does the first character that is not skipped have a case? -/
def meetsCased (cs : List Char) : Bool :=
  match cs.dropWhile (inRanges CaseTable.caseIgnorable) with
  | [] => false
  | c :: _ => inRanges CaseTable.cased c

/-- The capital sigma. -/
def capitalSigma : Char := Char.ofNat 0x3A3

/-- The lower case of a text whose earlier characters, the nearest first, are `before`. A capital
sigma after a letter and not before one is at the end of its word. -/
def lowerFrom (before : List Char) : List Char → List Char
  | [] => []
  | c :: rest =>
    let lowered :=
      if c = capitalSigma then
        [Char.ofNat (if meetsCased before && !meetsCased rest then 0x3C2 else 0x3C3)]
      else lowerChar c
    lowered ++ lowerFrom (c :: before) rest

/-- The text in lower case. -/
def lower (text : String) : String := String.ofList (lowerFrom [] text.toList)

/-- The text in upper case. -/
def upper (text : String) : String := String.ofList (text.toList.flatMap upperChar)

end VersionedAssets.Text
