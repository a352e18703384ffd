import VersionedAssets.FileTree.Writing
import VersionedAssets.Host

/-! # Installing packages

A package with a dotted name is installed by marking it and the packages around it and by making
the place that holds them one of those that packages are looked for in.
-/

namespace VersionedAssets.Host

/-- The paths of the marks of a package and of the packages around it. -/
def markPaths (name : String) : List FilePath :=
  let parts := Text.pieces '.' name
  (List.range parts.length).map fun i => parts.take (i + 1) ++ [Importable.markName]

/-- The directory of a package below the place that it is looked for in. -/
def packagePath (name : String) : FilePath := Text.pieces '.' name

/-- The host with a packed package. Files without content are directories. -/
def installPacked (host : Host) (name : String) (files : List (String × Option Bytes)) : Host :=
  let marks := (markPaths name).map fun path => (Text.join "/" path, [])
  let members := files.map fun (path, content?) =>
    let inside := Text.join "/" (packagePath name ++ [path])
    match content? with
    | some content => (inside, content)
    | none => (Text.trimEndSlashes inside ++ "/", [])
  { host with sources := host.sources ++ [.packed { members := marks ++ members } ""] }

/-- The host with an unpacked package below a path, with marks of the given modification time and
without other files. -/
def installUnpacked (host : Host) (base : FilePath) (name : String) (modified : Int) :
    Except Fault Host := do
  let files ← (markPaths name).foldlM (fun (files : FileTree) path =>
    files.writeFile (base ++ path) [] modified) host.files
  return { host with files, sources := host.sources ++ [.unpacked base] }

end VersionedAssets.Host
