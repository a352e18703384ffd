/-! # Blanks

The characters that count as white space around and between words, and the two operations that
need them: trimming a text and cutting it into words. The set is the one of Unicode together with
the four information separators U+001C to U+001F.
-/

namespace VersionedAssets.Text

/-- White space of Unicode, and the separators U+001C to U+001F. -/
def isBlank (c : Char) : Bool :=
  let n := c.toNat
  (0x9 ≤ n && n ≤ 0xD) || (0x1C ≤ n && n ≤ 0x20) || n == 0x85 || n == 0xA0 || n == 0x1680 ||
    (0x2000 ≤ n && n ≤ 0x200A) || n == 0x2028 || n == 0x2029 || n == 0x202F || n == 0x205F ||
    n == 0x3000

/-- A list without the elements at both of its ends that satisfy `p`. -/
def trimList {α : Type} (p : α → Bool) (cs : List α) : List α :=
  ((cs.dropWhile p).reverse.dropWhile p).reverse

/-- A text without the blanks at both of its ends. -/
def trim (text : String) : String := String.ofList (trimList isBlank text.toList)

/-- The runs of characters between blanks, empty ones included. -/
def runLists : List Char → List (List Char)
  | [] => [[]]
  | c :: rest =>
    if isBlank c then [] :: runLists rest
    else match runLists rest with
      | [] => [[c]]
      | run :: runs => (c :: run) :: runs

/-- The words of a text: its maximal runs of non-blank characters. -/
def wordLists (cs : List Char) : List (List Char) := (runLists cs).filter fun run => !run.isEmpty

end VersionedAssets.Text
