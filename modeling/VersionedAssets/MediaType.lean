import VersionedAssets.Fields
import VersionedAssets.FileTree
import VersionedAssets.Text.Letter

/-! # Media types

A registry maps the extensions of file names to media types. Extensions are compared in lower case
and with their dot. Types of texts are sent with a character set.
-/

namespace VersionedAssets

/-- A registry of media types by extension. -/
structure MediaTypes where
  types : Fields String
  charset : String
  deriving DecidableEq, Repr

namespace MediaTypes

/-- The media types that every registry begins with. -/
def standard : List (String × String) := [
  (".html", "text/html"),
  (".htm", "text/html"),
  (".css", "text/css"),
  (".js", "text/javascript"),
  (".mjs", "text/javascript"),
  (".json", "application/json"),
  (".map", "application/json"),
  (".xml", "application/xml"),
  (".txt", "text/plain"),
  (".md", "text/markdown"),
  (".csv", "text/csv"),
  (".png", "image/png"),
  (".jpg", "image/jpeg"),
  (".jpeg", "image/jpeg"),
  (".gif", "image/gif"),
  (".svg", "image/svg+xml"),
  (".ico", "image/x-icon"),
  (".webp", "image/webp"),
  (".avif", "image/avif"),
  (".bmp", "image/bmp"),
  (".woff", "font/woff"),
  (".woff2", "font/woff2"),
  (".ttf", "font/ttf"),
  (".otf", "font/otf"),
  (".eot", "application/vnd.ms-fontobject"),
  (".mp3", "audio/mpeg"),
  (".wav", "audio/wav"),
  (".ogg", "audio/ogg"),
  (".mp4", "video/mp4"),
  (".webm", "video/webm"),
  (".pdf", "application/pdf"),
  (".zip", "application/zip"),
  (".gz", "application/gzip"),
  (".wasm", "application/wasm")]

/-- The media type of a download whose type is unknown. -/
def fallback : String := "application/octet-stream"

/-- Types outside of `text/` that are texts all the same. -/
def otherTexts : List String :=
  ["application/json", "application/xml", "application/javascript", "image/svg+xml"]

/-- Is the media type one of texts? -/
def isText (mediaType : String) : Bool :=
  Text.startsWith mediaType "text/" || otherTexts.contains mediaType

/-- The part of a base name from its last dot on, unless that dot is its first or last character. -/
def suffix (name : List Char) : List Char :=
  match Text.cutLast? '.' name with
  | some (_ :: _, c :: after) => '.' :: c :: after
  | _ => []

/-- The base name of a file path. -/
def baseName (path : String) : String := (FilePath.names path).getLastD ""

/-- The extension of a file path in lower case, with its dot; empty if it has none. -/
def extensionOf (path : String) : String :=
  Text.lower (String.ofList (suffix (baseName path).toList))

/-- An extension in lower case and with its dot, given with or without the dot in any case. -/
def normalize (ext : String) : String :=
  Text.lower (if Text.startsWith ext "." then ext else "." ++ ext)

/-- The registry with a type for an extension. -/
def register (registry : MediaTypes) (ext mediaType : String) : MediaTypes :=
  { registry with types := registry.types.put (normalize ext) mediaType }

/-- The standard types with others registered after them. -/
def ofList (entries : List (String × String)) (charset : String) : MediaTypes :=
  entries.foldl (fun registry entry => registry.register entry.1 entry.2)
    ⟨Fields.ofList standard, charset⟩

/-- The registry with the standard types only. -/
def default : MediaTypes := ofList [] "utf-8"

/-- Is a type registered for the extension? -/
def has (registry : MediaTypes) (ext : String) : Bool := registry.types.has (normalize ext)

/-- The media type of a file, if its extension is known. -/
def typeOf? (registry : MediaTypes) (path : String) : Option String :=
  registry.types.get? (extensionOf path)

/-- A media type as a header value: with the character set if it is one of texts. -/
def withCharset (registry : MediaTypes) (mediaType : String) : String :=
  if isText mediaType then mediaType ++ "; charset=" ++ registry.charset else mediaType

/-- The header value for a file, if its extension is known. -/
def contentType? (registry : MediaTypes) (path : String) : Option String :=
  (registry.typeOf? path).map registry.withCharset

/-- A text that is there and not empty. -/
def nonEmpty? (text : Option String) : Option String := text.filter fun t => !t.isEmpty

/-- The standard media type of a file, or else the given one, or else that of unknown files. -/
def typeOr (path : String) (other : Option String) : String :=
  ((nonEmpty? (default.typeOf? path)).or (nonEmpty? other)).getD fallback

/-- The header value for a download of a file. -/
def downloadType (path : String) : String := (nonEmpty? (default.contentType? path)).getD fallback

end MediaTypes

end VersionedAssets
