import VersionedAssets.FileTree
import VersionedAssets.Number.Binary64
import VersionedAssets.Stream
import VersionedAssets.Text.Percent

/-! # Locations

A location is what a store answers for a path: a name for the resource, and the means to ask for its
last-modified time and to open it. Both means look at the file tree at the moment they are used, so
a file may have gone since it was found.
-/

namespace VersionedAssets

/-- A last-modified time in milliseconds as a store reports it. -/
inductive Reading where
  | whole (millis : Int)
  | fractional (millis : Float)
  deriving Inhabited

/-- The whole milliseconds of a reading; a fraction is cut off. -/
def Reading.millis : Reading → Except Fault Int
  | whole n => .ok n
  | fractional x =>
    match Number.Binary64.ofFloat? x with
    | some b => .ok b.truncate
    | none => .error (if x.isNaN then .value .notANumber else .overflow .infinite)

/-- A resource that was found. -/
structure Location where
  /-- The identity of the resource in records and messages. -/
  uri : String
  /-- The base name, for the media type and for downloads. -/
  filename : String
  /-- Reports the last-modified time. -/
  modified : FileTree → Except Fault Reading
  /-- Opens a new stream of the content. -/
  content : FileTree → Except Fault Stream

namespace Location

/-- Locations are compared by name alone. -/
def sameAs (a b : Location) : Bool := a.uri == b.uri && a.filename == b.filename

/-- A fault of input or output becomes a resource fault; other faults stay as they are. -/
def asResourceFault (failure : ResourceFailure) : Fault → Fault
  | .io fault => .resource ⟨failure, some (.io fault)⟩
  | fault => fault

/-- The last-modified time in milliseconds since 1970. -/
def lastModified (location : Location) (files : FileTree) : Except Fault Int :=
  match location.modified files with
  | .ok reading => reading.millis
  | .error fault => .error (asResourceFault (.metadata location.uri) fault)

/-- Opens the resource. Whoever opens it has to close the stream. -/
def open? (location : Location) (files : FileTree) : Except Fault Stream :=
  match location.content files with
  | .ok stream => .ok stream
  | .error fault => .error (asResourceFault (.opening location.uri) fault)

/-- The name of a file path as a URI. -/
def fileUri (path : FilePath) : String := "file://" ++ Text.Percent.encode (FilePath.render path)

/-- The modification time of a file in whole milliseconds, rounded down. Nodes other than files
have none that matters. -/
def fileTime (files : FileTree) (path : FilePath) : Except Fault Reading :=
  match files.find path with
  | .error fault => .error (.io fault)
  | .ok (.file _ modified) => .ok (.whole (modified / 1000000))
  | .ok _ => .ok (.whole 0)

/-- A stream of the content of a file. -/
def fileContent (files : FileTree) (path : FilePath) : Except Fault Stream :=
  match files.find path with
  | .error fault => .error (.io fault)
  | .ok (.file data _) => .ok { rest := data, source := .file }
  | .ok _ => .error (.io .isDirectory)

/-- The location of a file. -/
def ofPath (path : FilePath) : Location where
  uri := fileUri path
  filename := path.getLastD ""
  modified files := fileTime files path
  content files := fileContent files path

end Location

end VersionedAssets
