import VersionedAssets.Text.Pieces

/-! # Resource paths

A resource path names a resource inside of a store. Its segments are what stands between slashes;
empty ones and `.` mean nothing, and a path with `..`, a backslash or a NUL in a segment tries to
leave its store and has no segments at all.
-/

namespace VersionedAssets.ResourcePath

/-- Is the segment without meaning? -/
def isVoid (segment : List Char) : Bool := segment == [] || segment == ['.']

/-- Does the segment try to leave the store? -/
def isUnsafe (segment : List Char) : Bool :=
  segment == ['.', '.'] || segment.contains '\\' || segment.contains (Char.ofNat 0)

/-- The segments of a path given as characters. -/
def segmentLists? (path : List Char) : Option (List (List Char)) :=
  let parts := Text.pieceLists '/' path
  if parts.any isUnsafe then none else some (parts.filter fun part => !isVoid part)

/-- The segments of a path; none if the path tries to leave its store. -/
def segments? (path : String) : Option (List String) :=
  (segmentLists? path.toList).map fun parts => parts.map String.ofList

/-- The segments of a path that leads to something: a safe path with at least one segment. -/
def nonEmptySegments? (path : String) : Option (List String) :=
  match segments? path with
  | some (segment :: rest) => some (segment :: rest)
  | _ => none

/-- The path without the slashes at its beginning. -/
def relative (path : String) : String := Text.dropSlashes path

end VersionedAssets.ResourcePath
