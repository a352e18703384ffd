import VersionedAssets.Text.Pieces
import VersionedAssets.Text.Utf8

/-! # Archives

An archive is a list of members, each with a path text as its name and with its content. A name that
ends in a slash is that of a directory. The directories that members lie in are there too, whether
or not they were stored. Names are compared as texts, so that `a//b` and `a/b` are two names.
-/

namespace VersionedAssets

namespace Archive

/-- The text of the directory that a name lies in, without a slash at its end. -/
def parent (name : String) : String :=
  let before := ((Text.trimEndSlashes name).toList.reverse.dropWhile (· ≠ '/')).reverse
  if before.all (· = '/') then String.ofList before
  else Text.trimEndSlashes (String.ofList before)

/-- At most `count` of the directories that a name lies in, the nearest first. -/
def parentsUpTo : Nat → String → List String
  | 0, _ => []
  | count + 1, name =>
    let directory := parent name
    if (Text.trimEndSlashes directory).isEmpty then []
    else (directory ++ "/") :: parentsUpTo count directory

/-- The directories that a name lies in, the nearest first. -/
def parents (name : String) : List String := parentsUpTo name.length name

/-- Names that were stored and after them those of other directories. -/
def withParents (stored : List String) : List String :=
  stored ++ ((stored.flatMap parents).filter fun name => !stored.contains name).eraseDups

end Archive

/-- Members with their names in the order in which they were stored. -/
structure Archive where
  members : List (String × Bytes)
  /-- All names: those that were stored and then those of other directories. -/
  names : List String := Archive.withParents (members.map (·.1))
  names_eq : names = Archive.withParents (members.map (·.1)) := by rfl
  deriving DecidableEq, Repr

namespace Archive

/-- The names that were stored. -/
def stored (archive : Archive) : List String := archive.members.map (·.1)

/-- The name that a path text means at a place. A text that begins with a slash stands for
itself. -/
def join (place text : String) : String :=
  if Text.startsWith text "/" then text
  else if place.isEmpty || Text.endsWith place "/" then place ++ text
  else place ++ "/" ++ text

/-- The place that several path texts lead to, one after the other. The place of a directory has a
slash at its end. -/
def follow (archive : Archive) (place : String) (texts : List String) : String :=
  let name := texts.foldl join place
  let names := archive.names
  if !names.contains name && names.contains (name ++ "/") then name ++ "/" else name

/-- Is the place a directory, by the form of its name? -/
def isDirectory (place : String) : Bool := place.isEmpty || Text.endsWith place "/"

/-- Is a file at the place? -/
def isFile (archive : Archive) (place : String) : Bool :=
  archive.names.contains place && !isDirectory place

/-- The names of what lies in the directory at a place. -/
def children (archive : Archive) (place : String) : List String :=
  archive.names.filter fun name => parent name == Text.trimEndSlashes place

/-- The content of the file at a place; of several members with one name, that of the last. -/
def content? (archive : Archive) (place : String) : Option Bytes :=
  archive.members.reverse.lookup place

end Archive

end VersionedAssets
