import VersionedAssets.ResourcePath
import VersionedAssets.Store

/-! # Directory stores

A directory store serves the files below one directory. The path of a resource is settled before
anything is said about it, so a link that leads out of the directory is refused, whether or not it
leads to something.
-/

namespace VersionedAssets

/-- The files below a directory, given by its settled path. -/
structure DirectoryStore where
  root : FilePath
  deriving DecidableEq, Repr

namespace DirectoryStore

/-- The store of the directory that a path text names. -/
def ofPath (files : FileTree) (text : String) : Except Fault DirectoryStore :=
  if Text.holds (Char.ofNat 0) text then .error (.value .nulInPath)
  else match files.settle (FilePath.names text) with
    | .cyclic path => .error (.state (.linkLoop (FilePath.render path)))
    | .at path =>
      match Bundle.isTreeDirectory files path with
      | .ok true => .ok ⟨path⟩
      | .ok false => .error (.value (.missingRoot text))
      | .error fault => .error (.io fault)

/-- The fault of a lookup that failed. -/
def lookupFault (store : DirectoryStore) (path : String) (cause : Cause) : Fault :=
  .resource ⟨.lookupBelow path (FilePath.render store.root), some cause⟩

/-- The record of a path that leads out of the directory. -/
def escapeRecord (path : String) : Record :=
  { channel := Channel.location, level := Level.warning
    text := s!"Path escapes resource root: {path}" }

/-- The location of the file at a settled path, if a file is there. -/
def locate (store : DirectoryStore) (files : FileTree) (path : String) (settled : FilePath) :
    Except Fault (Option Location) :=
  match files.isRegularFile settled with
  | .ok true => .ok (some (Location.ofPath settled))
  | .ok false => .ok none
  | .error fault => .error (store.lookupFault path (.io fault))

/-- Looks a path up. -/
def lookup (store : DirectoryStore) (files : FileTree) (path : String) : Lookup :=
  match ResourcePath.nonEmptySegments? path with
  | none => .silent (.ok none)
  | some segments =>
    match files.settle (store.root ++ segments) with
    | .cyclic loop => .silent (.error (store.lookupFault path (.linkLoop (FilePath.render loop))))
    | .at settled =>
      if store.root.isBelow settled then .silent (store.locate files path settled)
      else { outcome := .ok none, records := [escapeRecord path] }

/-- The store as handlers use it. -/
def toStore (store : DirectoryStore) : Store where
  name := "DirectoryResolver(" ++ Text.quoted (FilePath.render store.root) ++ ")"
  lookup host path := store.lookup host.files path

end DirectoryStore

end VersionedAssets
