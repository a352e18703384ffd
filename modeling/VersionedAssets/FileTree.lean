import VersionedAssets.Fault
import VersionedAssets.Text.Pieces
import VersionedAssets.Text.Utf8

/-! # File trees

A tree of directories, files and symbolic links, with the two ways in which a path is followed in
it. Opening a path follows every link on the way and fails if something is missing. Settling a path
replaces it by the path that it stands for; links are followed, names that do not exist are kept,
and behind a cycle of links names are kept as well.
-/

namespace VersionedAssets

/-- What stands at a path. The modification time of a file is in nanoseconds since 1970. -/
inductive Node where
  | file (data : Bytes) (modified : Int)
  | link (target : String)
  | directory (entries : List (String × Node))
  deriving Repr, Inhabited

/-- The names on the way from the root to a node. An empty name in front of them says that the path
is written with two slashes at its beginning, which leads to the same node but is another path. -/
abbrev FilePath := List String

namespace FilePath

/-- Is the name one that means nothing on the way along a path? -/
def isVoid (name : String) : Bool := name == "" || name == "."

/-- The names of a path text; empty names and `.` are dropped, `..` stays. -/
def names (text : String) : FilePath := (Text.pieces '/' text).filter fun name => !isVoid name

/-- Does the path text begin at the root? -/
def isAbsolute (text : String) : Bool := Text.startsWith text "/"

/-- Is the path written with two slashes at its beginning? -/
def isDoubled (path : FilePath) : Bool := path.head? == some ""

/-- The text of a path from the root. -/
def render (path : FilePath) : String :=
  if path = [""] then "//" else "/" ++ Text.join "/" path

/-- Is the path that of a directory, or one below it? -/
def isBelow (root path : FilePath) : Bool :=
  root.isPrefixOf path && root.isDoubled == path.isDoubled

/-- The path without empty names and `.`, and without `..`, each of which removes the name before
it. Two slashes at the beginning stay. -/
def lexical (path : FilePath) : FilePath :=
  (if path.isDoubled then [""] else []) ++ path.foldl (fun done name =>
    if isVoid name then done else if name = ".." then done.dropLast else done ++ [name]) []

/-- The path that a text means when read at a path. -/
def append (path : FilePath) (text : String) : FilePath :=
  if isAbsolute text then names text else path ++ names text

end FilePath

namespace Node

/-- The entry of a directory with the given name. -/
def child? : Node → String → Option Node
  | directory entries, name => entries.lookup name
  | _, _ => none

/-- The node at a path below this one, links not followed. -/
def at? (node : Node) : FilePath → Option Node
  | [] => some node
  | name :: rest => (node.child? name).bind fun child => child.at? rest

/-- Is the node a directory? -/
def isDirectory : Node → Bool
  | directory _ => true
  | _ => false

/-- Is the node a file? -/
def isFile : Node → Bool
  | file _ _ => true
  | _ => false

/-- The entries of a directory; none for any other node. -/
def entries : Node → List (String × Node)
  | directory entries => entries
  | _ => []

/-- The entries with the one of a name replaced, or added at the end. -/
def putEntry (name : String) (node : Node) : List (String × Node) → List (String × Node)
  | [] => [(name, node)]
  | entry :: rest =>
    if entry.1 = name then (name, node) :: rest else entry :: putEntry name node rest

/-- The tree with a node put at a path. Directories are made on the way where there are none, and
a directory put where one stands leaves it as it is. -/
def put (tree : Node) (path : FilePath) (node : Node) : Node :=
  match path with
  | [] => if tree.isDirectory && node.isDirectory then tree else node
  | name :: rest =>
    directory (putEntry name (((tree.child? name).getD (directory [])).put rest node) tree.entries)

/-- The tree without what stands at a path. -/
def erase (tree : Node) : FilePath → Node
  | [] => tree
  | [name] => directory (tree.entries.filter fun entry => entry.1 ≠ name)
  | name :: next :: rest =>
    match tree.child? name with
    | none => tree
    | some child => directory (putEntry name (child.erase (next :: rest)) tree.entries)

mutual

/-- The number of links in a tree. -/
def linkCount : Node → Nat
  | file _ _ => 0
  | link _ => 1
  | directory entries => linkCounts entries

/-- The number of links in the entries of a directory. -/
def linkCounts : List (String × Node) → Nat
  | [] => 0
  | (_, node) :: rest => linkCount node + linkCounts rest

end

end Node

/-- The path that another one settles to, or a path with a cycle of links in its way. -/
inductive Settled where
  | at (path : FilePath)
  | cyclic (path : FilePath)
  deriving DecidableEq, Repr

/-- A file tree. -/
structure FileTree where
  root : Node := .directory []
  deriving Repr, Inhabited

namespace FileTree

/-- The node at a path, links not followed. -/
def node? (tree : FileTree) (path : FilePath) : Option Node := tree.root.at? path

/-- The target of the link at a path, if a link is there. -/
def link? (tree : FileTree) (path : FilePath) : Option String :=
  match tree.node? path with
  | some (.link target) => some target
  | _ => none

/-! ## Opening -/

/-- Where the walk along a path stops: at its end, at a fault, or at a link with names left. -/
inductive Stop where
  | arrived (path : FilePath)
  | failed (fault : IoFault)
  | met (base : FilePath) (target : String) (rest : List String)
  deriving DecidableEq, Repr

/-- The longest name in bytes. -/
def maxName : Nat := 255

/-- The longest path in bytes. -/
def maxPath : Nat := 4095

/-- The most links that are followed on the way to a node. -/
def maxLinks : Nat := 40

/-- The names along the way that the target of a link describes. A target that ends in a slash has
to be a directory, as one that ends in `.` has to. -/
def wayTo (target : String) : List String :=
  let pieces := Text.pieces '/' target
  (pieces.filter (· ≠ "")) ++ (if pieces.getLast? = some "" then ["."] else [])

/-- Walks from a directory along names up to the first link. -/
def walk (tree : FileTree) : FilePath → List String → Stop
  | base, [] => .arrived base
  | base, name :: rest =>
    match tree.node? base with
    | some (.directory _) =>
      if FilePath.isVoid name then tree.walk base rest
      else if name = ".." then tree.walk base.dropLast rest
      else if maxName < name.utf8ByteSize then .failed .nameTooLong
      else match tree.node? (base ++ [name]) with
        | none => .failed .absent
        | some (.link target) => .met base target rest
        | some _ => tree.walk (base ++ [name]) rest
    | _ => .failed .notDirectory

/-- Walks along names and through at most `budget` links. -/
def reach (tree : FileTree) : Nat → FilePath → List String → Except IoFault FilePath
  | budget, base, names =>
    match tree.walk base names with
    | .arrived path => .ok path
    | .failed fault => .error fault
    | .met base target rest =>
      match budget with
      | 0 => .error .linkLoop
      | budget + 1 =>
        tree.reach budget (if FilePath.isAbsolute target then [] else base)
          (wayTo target ++ rest)

/-- The node that a path leads to, with every link followed. -/
def find (tree : FileTree) (path : FilePath) : Except IoFault Node :=
  if maxPath < (FilePath.render path).utf8ByteSize then .error .nameTooLong
  else match tree.reach maxLinks [] path with
    | .error fault => .error fault
    | .ok reached =>
      match tree.node? reached with
      | some node => .ok node
      | none => .error .absent

/-! ## Settling -/

/-- What settling has found out about the links that it met: the path that a link leads to, or none
while the link is being followed. -/
abbrev Visited := List (FilePath × Option FilePath)

/-- The path that names mean after a path when no link is looked at: a text that begins at the root
stands for itself, and keeps two slashes at its beginning if there are exactly two. -/
def joinRest (path : FilePath) (rest : List String) : FilePath :=
  let slashes := min (rest.takeWhile (· = "")).length (rest.length - 1)
  let names := rest.filter fun name => !FilePath.isVoid name
  if slashes = 0 then path ++ names
  else if slashes = 2 then "" :: names
  else names

/-- Goes through names from a settled path; `step` settles one more name. When that meets a cycle,
the names that are left stay as they are. -/
def settleNames (step : FilePath → String → Visited → Settled × Visited) :
    FilePath → List String → Visited → Settled × Visited
  | base, [], visited => (.at base, visited)
  | base, name :: rest, visited =>
    if FilePath.isVoid name then settleNames step base rest visited
    else if name = ".." then settleNames step base.dropLast rest visited
    else match step base name visited with
      | (.at path, visited) => settleNames step path rest visited
      | (.cyclic path, visited) => (.cyclic (joinRest path rest), visited)

/-- Settles names from a settled path. A link is followed once; met again it leads where it led
before, and met while it is being followed it closes a cycle. No chain of links inside of links is
longer than the number of links, so `depth` is never used up before a link is met twice. -/
def settleFrom (tree : FileTree) :
    Nat → FilePath → List String → Visited → Settled × Visited
  | 0, base, names, visited => (.cyclic (base ++ names), visited)
  | depth + 1, base, names, visited =>
    settleNames (fun base name visited =>
      let path := base ++ [name]
      match tree.link? path with
      | none => (.at path, visited)
      | some target =>
        match visited.lookup path with
        | some (some settled) => (.at settled, visited)
        | some none => (.cyclic path, visited)
        | none =>
          let start := if FilePath.isAbsolute target then [] else base
          match tree.settleFrom depth start (Text.pieces '/' target) ((path, none) :: visited) with
          | (.at settled, visited) => (.at settled, (path, some settled) :: visited)
          | (.cyclic met, visited) => (.cyclic met, visited)) base names visited

/-- The path without links that a path stands for. Where a cycle of links is met, what follows it is
only tidied up; `..` may lead out of the cycle then, to a path that has links yet. A cycle that is
still in the way leaves the path without an end. -/
def settle (tree : FileTree) (path : FilePath) : Settled :=
  match (tree.settleFrom (tree.root.linkCount + 1) [] path []).1 with
  | .at settled => .at settled
  | .cyclic met =>
    let tidy := FilePath.lexical met
    match tree.find tidy with
    | .error .linkLoop => .cyclic tidy
    | _ => .at tidy

/-! ## What is there -/

/-- Does the path lead to a file? Nothing there means no; a store that fails is a fault. -/
def isRegularFile (tree : FileTree) (path : FilePath) : Except IoFault Bool :=
  match tree.find path with
  | .ok node => .ok node.isFile
  | .error fault => if fault.isMissing then .ok false else .error fault

/-- Does the path lead to a directory? Any fault on the way means no. -/
def leadsToDirectory (tree : FileTree) (path : FilePath) : Bool :=
  match tree.find path with
  | .ok node => node.isDirectory
  | .error _ => false

/-- Does the path text name a directory? The working directory is the root. -/
def hasDirectory (tree : FileTree) (text : String) : Bool :=
  !text.isEmpty && !Text.holds (Char.ofNat 0) text && text.utf8ByteSize ≤ maxPath &&
    tree.leadsToDirectory (FilePath.names text)

end FileTree

end VersionedAssets
