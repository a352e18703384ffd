import VersionedAssets.FileTree

/-! # Writing to a file tree

Directories, files and links are made at paths and taken away again. What a path leads through has
to be there; links on the way are followed. A file is written through links, also through one whose
target is yet to be made. Making a directory or a file makes the directories around it as well.
-/

namespace VersionedAssets.FileTree

/-- The directory that the last name of a path stands in, with that name. There is none if the path
has no names or ends in one that is no entry of a directory. -/
def place? (tree : FileTree) (path : FilePath) : Except IoFault (Option (FilePath × String)) :=
  match path.getLast? with
  | none => .ok none
  | some name => do
    let directory ← tree.reach maxLinks [] path.dropLast
    if !(tree.node? directory).any Node.isDirectory then throw .notDirectory
    else if FilePath.isVoid name || name = ".." then return none
    else if maxName < name.utf8ByteSize then throw .nameTooLong
    else return some (directory, name)

/-- Puts a node where nothing stands. -/
def add (tree : FileTree) (path : FilePath) (node : Node) : Except IoFault FileTree := do
  match ← tree.place? path with
  | none => throw .present
  | some (directory, name) =>
    if (tree.node? (directory ++ [name])).isSome then throw .present
    else return ⟨tree.root.put (directory ++ [name]) node⟩

/-- Makes a directory if nothing stands at a path. -/
def fill (tree : FileTree) (path : FilePath) : Except IoFault FileTree :=
  match tree.add path (.directory []) with
  | .error .present => .ok tree
  | made => made

/-- The paths that a path leads through, itself left out, the shortest first. -/
def pathsThrough (path : FilePath) : List FilePath :=
  (List.range path.length).map fun count => path.take count

/-- Makes a directory, where there is none, and the directories around it. -/
def addDirectories (tree : FileTree) (path : FilePath) : Except IoFault FileTree := do
  let tree ← (pathsThrough path).foldlM fill tree
  if tree.leadsToDirectory path then return tree else tree.add path (.directory [])

/-- Where a file at a path is written: at the end of at most `budget` links, none of which may ask for
a directory. -/
def landing (tree : FileTree) : Nat → FilePath → Except IoFault FilePath
  | budget, path => do
    match ← tree.place? path with
    | none => throw .isDirectory
    | some (directory, name) =>
      match tree.node? (directory ++ [name]), budget with
      | some (.directory _), _ => throw .isDirectory
      | some (.link _), 0 => throw .linkLoop
      | some (.link target), budget + 1 =>
        let start := if FilePath.isAbsolute target then [] else directory
        if Text.endsWith target "/" then do
          let _ ← tree.place? (start ++ (wayTo target).dropLast)
          throw .isDirectory
        else tree.landing budget (start ++ wayTo target)
      | _, _ => return directory ++ [name]

/-- Refuses a path text that no file system takes. -/
def checkText (text : String) : Except Fault Unit :=
  if Text.holds (Char.ofNat 0) text then .error (.value .nulInPath)
  else if text.isEmpty then .error (.io .absent)
  else if maxPath < text.utf8ByteSize then .error (.io .nameTooLong)
  else .ok ()

/-- Makes a directory, where there is none, and the directories around it. -/
def makeDirectory (tree : FileTree) (path : FilePath) : Except Fault FileTree := do
  checkText path.render
  (tree.addDirectories path).mapError Fault.io

/-- Do the seconds of a time in nanoseconds fit into the word that file systems keep them in? -/
def isStorable (time : Int) : Bool :=
  let seconds := time / 1000000000
  seconds < 0x8000000000000000 && -0x8000000000000000 ≤ seconds

/-- Writes a file with its modification time in nanoseconds. -/
def writeFile (tree : FileTree) (path : FilePath) (data : Bytes) (modified : Int) :
    Except Fault FileTree := do
  let tree ← tree.makeDirectory path.dropLast
  checkText path.render
  let place ← (tree.landing maxLinks path).mapError Fault.io
  if isStorable modified then return ⟨tree.root.put place (.file data modified)⟩
  else throw (.overflow .seconds)

/-- Makes a symbolic link. -/
def makeLink (tree : FileTree) (path : FilePath) (target : String) : Except Fault FileTree := do
  let tree ← tree.makeDirectory path.dropLast
  checkText path.render
  checkText target
  (tree.add path (.link target)).mapError Fault.io

/-- The tree without the file or the link at a path. With a slash after the path only a directory
will do, and no directory is taken away. -/
def erase (tree : FileTree) (path : FilePath) (slashAfter : Bool) : Except IoFault FileTree := do
  match ← tree.place? path with
  | none => throw .isDirectory
  | some (directory, name) =>
    match tree.node? (directory ++ [name]) with
    | none => throw .absent
    | some (.directory _) => throw .isDirectory
    | some _ =>
      if slashAfter then throw .notDirectory
      else return ⟨tree.root.erase (directory ++ [name])⟩

/-- The tree without the file or the link that a path text means. -/
def remove (tree : FileTree) (text : String) : Except Fault FileTree := do
  checkText text
  let names := (Text.pieces '/' text).filter (· ≠ "")
  (tree.erase names (Text.endsWith text "/")).mapError Fault.io

end VersionedAssets.FileTree
