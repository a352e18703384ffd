/-! # Pieces of a text

Cutting a text at a separator, joining pieces again, and the tests on its two ends. Every operation
goes through the list of characters, so that its laws are laws of lists.
-/

namespace VersionedAssets.Text

/-- The pieces between the occurrences of `sep`, empty ones included; there is always at least
one piece. -/
def pieceLists (sep : Char) : List Char → List (List Char)
  | [] => [[]]
  | c :: rest =>
    if c = sep then [] :: pieceLists sep rest
    else match pieceLists sep rest with
      | [] => [[c]]
      | piece :: pieces => (c :: piece) :: pieces

theorem pieceLists_ne_nil (sep : Char) (cs : List Char) : pieceLists sep cs ≠ [] := by
  cases cs with
  | nil => simp [pieceLists]
  | cons c rest =>
    unfold pieceLists
    split
    · simp
    · split <;> simp

/-- The pieces of a text between the occurrences of `sep`. -/
def pieces (sep : Char) (text : String) : List String :=
  (pieceLists sep text.toList).map String.ofList

/-- The pieces one after the other with `sep` between neighbours. -/
def join (sep : String) (pieces : List String) : String := sep.intercalate pieces

/-- Does the text begin with `head`? -/
def startsWith (text head : String) : Bool := head.toList.isPrefixOf text.toList

/-- Does the text end in `tail`? -/
def endsWith (text tail : String) : Bool := tail.toList.isSuffixOf text.toList

/-- The text after its first `count` characters. -/
def dropFirst (count : Nat) (text : String) : String := String.ofList (text.toList.drop count)

/-- The text without the slashes at its beginning. -/
def dropSlashes (text : String) : String := String.ofList (text.toList.dropWhile (· = '/'))

/-- The text without the slashes at its end. -/
def trimEndSlashes (text : String) : String :=
  String.ofList ((text.toList.reverse.dropWhile (· = '/')).reverse)

/-- The text without the slashes at both of its ends. -/
def trimSlashes (text : String) : String := trimEndSlashes (dropSlashes text)

/-- The text with every `old` character written as `new`. -/
def swap (old new : Char) (text : String) : String :=
  String.ofList (text.toList.map fun c => if c = old then new else c)

/-- Does the character occur in the text? -/
def holds (c : Char) (text : String) : Bool := text.toList.contains c

/-- What stands before and after the first `sep`; none when `sep` does not occur. -/
def cutFirst? (sep : Char) (cs : List Char) : Option (List Char × List Char) :=
  match cs.dropWhile (· ≠ sep) with
  | [] => none
  | _ :: after => some (cs.takeWhile (· ≠ sep), after)

/-- What stands before and after the last `sep`; none when `sep` does not occur. -/
def cutLast? (sep : Char) (cs : List Char) : Option (List Char × List Char) :=
  (cutFirst? sep cs.reverse).map fun (after, before) => (before.reverse, after.reverse)

end VersionedAssets.Text
