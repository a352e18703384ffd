import VersionedAssets.Text.Digit
import VersionedAssets.Text.Pieces

/-! # Version tokens

A versioned path carries the last-modified time of its resource as a token: `-ver-` and decimal
digits, followed by a dot or by the end of the path. The token is put before the last dot of a path,
so that the extension stays at the end, and the first token of a path is the one that is removed.
-/

namespace VersionedAssets.VersionToken

/-- What every token begins with. -/
def marker : List Char := ['-', 'v', 'e', 'r', '-']

/-- May a token end before these characters? -/
def endsBefore : List Char → Bool
  | [] => true
  | c :: _ => c = '.'

/-- The number of digits of the token that the characters begin with; none if they begin with no
token. A token takes all the digits after its marker. -/
def digitsAt? (cs : List Char) : Option Nat :=
  if marker.isPrefixOf cs then
    let digits := (cs.drop marker.length).takeWhile Text.isAsciiDigit
    let after := (cs.drop marker.length).dropWhile Text.isAsciiDigit
    if digits.isEmpty || !endsBefore after then none else some digits.length
  else none

/-- Where a token begins and ends. -/
structure Span where
  start : Nat
  stop : Nat
  deriving DecidableEq, Repr

/-- The first token in characters that stand `offset` places from the beginning of the path. -/
def findFrom? (offset : Nat) : List Char → Option Span
  | [] => none
  | c :: rest =>
    match digitsAt? (c :: rest) with
    | some count => some ⟨offset, offset + marker.length + count⟩
    | none => findFrom? (offset + 1) rest

/-- The first token of a path. -/
def find? (path : String) : Option Span := findFrom? 0 path.toList

/-- Does the path carry a token? -/
def isVersioned (path : String) : Bool := (find? path).isSome

/-- The path without its first token. -/
def remove (path : String) : String :=
  match find? path with
  | none => path
  | some span => String.ofList (path.toList.take span.start ++ path.toList.drop span.stop)

/-- The token of a last-modified time. -/
def ofTime (lastModified : Int) : List Char := marker ++ (toString lastModified).toList

/-- The path with the token of a last-modified time before its last dot, or at its end. -/
def inject (path : String) (lastModified : Int) : String :=
  let token := ofTime lastModified
  match Text.cutLast? '.' path.toList with
  | none => String.ofList (path.toList ++ token)
  | some (before, after) => String.ofList (before ++ token ++ '.' :: after)

end VersionedAssets.VersionToken
