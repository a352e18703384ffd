import VersionedAssets.Store.Package

/-! # Webjar stores

A webjar store serves web libraries of a package. Each library has a directory with a directory for
each installed version; a path that leaves the version out means the newest version that has the
file. Versions are compared part by part, numbers as numbers and before other texts.
-/

namespace VersionedAssets

/-- A part of a version name between dots or dashes. -/
inductive VersionPart where
  | number (n : Nat)
  | text (s : String)
  deriving DecidableEq, Repr

namespace VersionPart

/-- Reads a part. Digits that no numeral is written with are refused. -/
def read (part : String) : Except Fault VersionPart :=
  if Text.allDigits part then
    match Text.Numeral.read part with
    | .ok n => .ok (number n.toNat)
    | .error fault => .error (.value (.numeral fault))
  else .ok (text part)

/-- Numbers are ordered by size and come before texts, which are ordered by their characters. -/
def compare : VersionPart → VersionPart → Ordering
  | number a, number b => Ord.compare a b
  | number _, text _ => .lt
  | text _, number _ => .gt
  | text a, text b => Ord.compare a b

end VersionPart

/-- The parts that a version name is compared by. -/
abbrev VersionKey := List VersionPart

namespace VersionKey

/-- The key of a version name. -/
def read (version : String) : Except Fault VersionKey :=
  (Text.pieces '.' (Text.swap '-' '.' version)).mapM VersionPart.read

/-- Keys are ordered by their first different parts; a key is older than its extensions. -/
def compare : VersionKey → VersionKey → Ordering
  | [], [] => .eq
  | [], _ :: _ => .lt
  | _ :: _, [] => .gt
  | a :: as, b :: bs => (a.compare b).then (compare as bs)

end VersionKey

/-- The web libraries of a package below a base directory. -/
structure WebjarStore where
  bundle : PackageStore

namespace WebjarStore

/-- The store of the libraries of a package. -/
def ofPackage (package base : String) : WebjarStore := ⟨PackageStore.ofPackage package base⟩

/-- The names from the newest version to the oldest. Names with equal keys keep their order. -/
def newestFirst (names : List String) : Except Fault (List String) := do
  let keyed ← names.mapM fun name => return (← VersionKey.read name, name)
  return (keyed.mergeSort fun a b => (b.1.compare a.1).isLE).map (·.2)

/-- The names of the version directories of a library in the order of the bundle. -/
def versionNames (store : WebjarStore) (host : Host) (library : String) :
    Except Fault (List String) := do
  let place ← (← store.bundle.root host).appendAll [library]
  let listed := do
    if ← place.isDirectory host.files then place.directories host.files else return []
  match listed with
  | .ok names => return names
  | .error fault =>
    throw (.resource ⟨.listing library store.bundle.package store.bundle.base, some (.io fault)⟩)

/-- The installed versions of a library, the newest first. -/
def versions (store : WebjarStore) (host : Host) (library : String) :
    Except Fault (List String) := do
  newestFirst (← store.versionNames host library)

/-- The first of the versions that has the file, with its location. -/
def firstWith (store : WebjarStore) (host : Host) (library : String) (rest : List String) :
    List String → Except Fault (Option (String × Location))
  | [] => .ok none
  | version :: older => do
    match ← store.bundle.find host (Text.join "/" (library :: version :: rest)) with
    | some location => return some (version, location)
    | none => store.firstWith host library rest older

/-- The newest version of a library that has the file which the segments name, if at least two
segments are there. -/
def newestWith (store : WebjarStore) (host : Host) (path : String) :
    Except Fault (Option (String × Location)) :=
  match ResourcePath.segments? path with
  | some (library :: name :: rest) => do
    store.firstWith host library (name :: rest) (← store.versions host library)
  | _ => .ok none

/-- The record of a version that was chosen for a path. -/
def choiceRecord (path version : String) : Record :=
  { channel := Channel.location, level := Level.debug
    text := s!"Resolved webjar {path} to version {version}" }

/-- Looks a path up: first as it is, then with a version put in. -/
def lookup (store : WebjarStore) (host : Host) (path : String) : Lookup :=
  match store.bundle.find host path with
  | .error fault => .silent (.error fault)
  | .ok (some location) => .silent (.ok (some location))
  | .ok none =>
    match store.newestWith host path with
    | .error fault => .silent (.error fault)
    | .ok none => .silent (.ok none)
    | .ok (some (version, location)) =>
      { outcome := .ok (some location), records := [choiceRecord path version] }

/-- The store as handlers use it. -/
def toStore (store : WebjarStore) : Store where
  name := store.bundle.describe "WebjarsResolver"
  lookup host path := store.lookup host path

end WebjarStore

end VersionedAssets
