import VersionedAssets.ResourcePath
import VersionedAssets.Store

/-! # Package stores

A package store serves the files below one directory of an installed package.
-/

namespace VersionedAssets

/-- The files of a package below a base directory. -/
structure PackageStore where
  package : String
  base : String
  /-- Finds the files of the package. -/
  bundle : Host → Except Fault Bundle := fun host => host.package package

namespace PackageStore

/-- The store of a package; slashes around the base mean nothing. -/
def ofPackage (package base : String) : PackageStore :=
  { package, base := Text.trimSlashes base }

/-- The base directory. -/
def root (store : PackageStore) (host : Host) : Except Fault Bundle := do
  let bundle ← store.bundle host
  if store.base.isEmpty then return bundle else bundle.appendAll (Text.pieces '/' store.base)

/-- The name of a resource by package and path. -/
def uri (store : PackageStore) (segments : List String) : String :=
  "package://" ++ store.package ++ "/" ++ Text.dropSlashes (Text.join "/" (store.base :: segments))

/-- The location of the file at the end of the segments, if a file is there. -/
def locate (store : PackageStore) (host : Host) (segments : List String) :
    Except Fault (Option Location) := do
  let place ← (← store.root host).appendAll segments
  match place.isFile host.files with
  | .ok true => return some (place.location (store.uri segments))
  | .ok false => return none
  | .error fault => throw (Location.asResourceFault (.lookup (store.uri segments)) fault)

/-- Looks a path up. -/
def find (store : PackageStore) (host : Host) (path : String) : Except Fault (Option Location) :=
  match ResourcePath.nonEmptySegments? path with
  | none => .ok none
  | some segments => store.locate host segments

/-- How messages name a store of the given kind. -/
def describe (store : PackageStore) (kind : String) : String :=
  kind ++ "(" ++ Text.quoted store.package ++ ", base=" ++ Text.quoted store.base ++ ")"

/-- The store as handlers use it. -/
def toStore (store : PackageStore) : Store where
  name := store.describe "PackageResolver"
  lookup host path := .silent (store.find host path)

end PackageStore

end VersionedAssets
