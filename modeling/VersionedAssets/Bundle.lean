import VersionedAssets.Archive
import VersionedAssets.Location

/-! # Bundles

A bundle holds the files of an installed package. Those of an unpacked package are ordinary files;
those of a packed one are members of an archive, which have no modification time; and a bundle may
be out of order, so that asking it anything can fail. A directory may be a package without being
marked as one; such a bundle can only be entered step by step.
-/

namespace VersionedAssets

/-- A place in the files of a package. -/
inductive Bundle where
  /-- A path in the file tree. -/
  | unpacked (path : FilePath)
  /-- The path of a package without a mark, which is taken to lie in one directory. -/
  | unmarked (path : FilePath)
  /-- A place in an archive. -/
  | packed (archive : Archive) (place : String)
  /-- A bundle that is a directory without a readable list, and says of every place in it whether
  it is a file, or fails. -/
  | faulty (isFile : Except IoFault Bool)

namespace Bundle

/-- The place that several path texts lead to, one after the other. From a package without a mark
only a single text leads on. -/
def appendAll : Bundle → List String → Except Fault Bundle
  | unpacked path, texts => .ok (unpacked (texts.foldl FilePath.append path))
  | unmarked path, [text] => .ok (unpacked (path.append text))
  | unmarked _, texts => .error (.mistyped (.steps texts.length))
  | packed archive place, texts => .ok (packed archive (archive.follow place texts))
  | faulty isFile, _ => .ok (faulty isFile)

/-- Is a file at the place? -/
def isFile (files : FileTree) : Bundle → Except Fault Bool
  | unpacked path =>
    if path.any (Text.holds (Char.ofNat 0)) then .error (.value .nulInPath)
    else (files.isRegularFile path).mapError Fault.io
  | unmarked _ => .ok false
  | packed archive place => .ok (archive.isFile place)
  | faulty isFile => isFile.mapError Fault.io

/-- Is a directory at a path of the file tree? A name that is too long is a fault; whatever else
fails means no. -/
def isTreeDirectory (files : FileTree) (path : FilePath) : Except IoFault Bool :=
  if path.any (Text.holds (Char.ofNat 0)) then .ok false
  else match files.find path with
    | .ok node => .ok node.isDirectory
    | .error .nameTooLong => .error .nameTooLong
    | .error _ => .ok false

/-- Is a directory at the place? -/
def isDirectory (files : FileTree) : Bundle → Except IoFault Bool
  | unpacked path => isTreeDirectory files path
  | packed _ place => .ok (Archive.isDirectory place)
  | unmarked _ | faulty _ => .ok true

/-- The names of the directories in a directory of the file tree. -/
def treeDirectories (files : FileTree) (path : FilePath) : Except IoFault (List String) := do
  let names := (← files.find path).entries.map (·.1)
  names.filterM fun name => isTreeDirectory files (path ++ [name])

/-- The names of the directories in the directory at the place. -/
def directories (files : FileTree) : Bundle → Except IoFault (List String)
  | unpacked path | unmarked path => treeDirectories files path
  | packed archive place =>
    .ok (((archive.children place).filter Archive.isDirectory).map fun name =>
      (FilePath.names name).getLastD "")
  | faulty _ => .error .device

/-- A stream of the content of a member of an archive. -/
def memberContent (archive : Archive) (place : String) : Except Fault Stream :=
  match archive.content? place with
  | some data => .ok { rest := data, source := .archive }
  | none => .error (.io .absent)

/-- The location of the file at the place. Files of the file tree are named by their paths, all
others by the given name. -/
def location (uri : String) : Bundle → Location
  | unpacked path | unmarked path => Location.ofPath path
  | packed archive place =>
    { uri, filename := (FilePath.names place).getLastD ""
      modified := fun _ => .ok (.whole 0), content := fun _ => memberContent archive place }
  | faulty _ =>
    { uri, filename := ""
      modified := fun _ => .ok (.whole 0), content := fun _ => .error (.io .device) }

end Bundle

end VersionedAssets
