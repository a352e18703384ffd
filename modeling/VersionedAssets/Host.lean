import VersionedAssets.Bundle

/-! # Hosts

What the machine offers that resources are served from: a file tree and installed packages. A
package has a dotted name. The first part is looked for in several places, every other part in the
package before it. A directory with a mark in it is a package; without a mark it is one only if
nothing else has its name.
-/

namespace VersionedAssets

/-- What a part of a dotted name stands for. -/
inductive Importable where
  /-- A package with a mark. -/
  | package (place : Bundle)
  /-- A file of code. -/
  | code
  /-- A directory without a mark. -/
  | directory (place : Bundle)

namespace Importable

/-- The file that marks a package. -/
def markName : String := "__init__.py"

/-- The name of the file of code for a part of a dotted name. -/
def codeName (part : String) : String := part ++ ".py"

/-- What a part stands for in a directory of the file tree. -/
def inTree? (files : FileTree) (path : FilePath) (part : String) : Option Importable :=
  let listed := match files.find path with
    | .ok node => node.entries.map Prod.fst
    | .error _ => []
  let holdsFile (path : FilePath) : Bool := ((files.find path).toOption.map Node.isFile).getD false
  let place := path ++ [part]
  if listed.contains part && holdsFile (place ++ [markName]) then some (package (.unpacked place))
  else if listed.contains (codeName part) && holdsFile (path ++ [codeName part]) then some code
  else if listed.contains part && files.leadsToDirectory place then
    some (directory (.unmarked place))
  else none

/-- What a part stands for in a directory of an archive. Only what was stored counts. -/
def inArchive? (archive : Archive) (place part : String) : Option Importable :=
  let inside := place ++ part ++ "/"
  if archive.stored.contains (inside ++ markName) then some (package (.packed archive inside))
  else if archive.stored.contains (place ++ codeName part) then some code
  else if archive.stored.contains inside then some (directory (.packed archive inside))
  else none

/-- What a part stands for in a place. -/
def find? (files : FileTree) (part : String) : Bundle → Option Importable
  | .unpacked path | .unmarked path => inTree? files path part
  | .packed archive place => inArchive? archive place part
  | .faulty _ => none

/-- Is it a directory without a mark? -/
def isDirectory : Importable → Bool
  | directory _ => true
  | _ => false

/-- The place to look for the next part in. -/
def place? : Importable → Option Bundle
  | package place | directory place => some place
  | code => none

/-- The files of the package with the given name. An archive offers no directories without a
mark. -/
def bundle (name : String) : Importable → Except Fault Bundle
  | package place => .ok place
  | code => .error (.mistyped (.notPackage name))
  | directory (.packed ..) => .error (.io .archiveDirectory)
  | directory place => .ok place

end Importable

/-- What the host offers: a file tree, and the places that packages are looked for in. -/
structure Host where
  files : FileTree := {}
  sources : List Bundle := []
  /-- What dotted names were found to stand for; they go on doing so whatever becomes of the files
  that said it. -/
  known : List (String × Importable) := []

namespace Host

/-- What a part stands for in the first of several places; a directory without a mark only if none
of them has anything else. Of several such directories only the first one counts: that a package
without a mark can be spread over all of them is left out. -/
def find? (host : Host) (places : List Bundle) (part : String) : Option Importable :=
  let found := places.filterMap (Importable.find? host.files part)
  (found.find? fun item => !item.isDirectory).or found.head?

/-- What a dotted name stands for, given by its parts; `before` is what stands before them. -/
def resolve (host : Host) (places : List Bundle) (before : String) :
    List String → Except Fault (Option Importable)
  | [] => .ok none
  | part :: rest =>
    let name := before ++ part
    match (host.known.lookup name).or (host.find? places part), rest with
    | none, _ => .error (.packageMissing name none)
    | some found, [] => .ok (some found)
    | some found, next :: _ =>
      match found.place? with
      | none => .error (.packageMissing (name ++ "." ++ next) (some name))
      | some place => host.resolve [place] (name ++ ".") rest

/-- The files of an installed package. -/
def package (host : Host) (name : String) : Except Fault Bundle :=
  if name.isEmpty then .error (.value .emptyPackageName)
  else if Text.startsWith name "." then .error (.mistyped (.packageRelative name))
  else do
    match ← host.resolve host.sources "" (Text.pieces '.' name) with
    | some found => found.bundle name
    | none => throw (.packageMissing name none)

/-- The host with what a dotted name and the names before its dots stand for kept for good. -/
def keep (host : Host) (name : String) : Host :=
  let parts := Text.pieces '.' name
  let kept := (List.range parts.length).filterMap fun i =>
    let parts := parts.take (i + 1)
    match host.resolve host.sources "" parts with
    | .ok (some found) => some (Text.join "." parts, found)
    | _ => none
  { host with known := host.known ++ kept }

end Host

end VersionedAssets
