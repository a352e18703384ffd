import VersionedAssets.HttpDate.Reader
import VersionedAssets.Request
import VersionedAssets.World

/-! # Cache policy

A resource is validated by its last-modified time: the time itself is its entity tag, and it is sent
as a date as well. A request that names the current tag, or a date not before the last change, has
the resource already. Tags win over dates, and dates count whole seconds.
-/

namespace VersionedAssets

/-- How long resources may be kept, and whether they may be kept at all. -/
structure CachePolicy where
  /-- Seconds that a resource is fresh for. -/
  maxAge : Nat := 3600
  /-- Outside of production every use of a resource is validated. -/
  production : Bool := true
  deriving DecidableEq, Repr, Inhabited

namespace CachePolicy

/-- The policy with an age, which must not be negative. -/
def ofMaxAge (maxAge : Int) (production : Bool) : Except Fault CachePolicy :=
  if maxAge < 0 then .error (.value (.maxAge maxAge))
  else .ok { maxAge := maxAge.toNat, production }

/-- The header value that tells caches what they may do. -/
def control (policy : CachePolicy) : String :=
  if policy.production then s!"public, max-age={policy.maxAge}" else "no-cache"

/-- The entity tag of a last-modified time. -/
def entityTag (lastModified : Int) : String := "\"" ++ toString lastModified ++ "\""

/-- A tag of a list without blanks around it and without the mark of weak tags. -/
def readTag (piece : String) : String :=
  let tag := Text.trim piece
  if Text.startsWith tag "W/" then Text.dropFirst 2 tag else tag

/-- The tags of a list. -/
def readTags (header : String) : List String :=
  ((Text.pieces ',' header).map readTag).filter fun tag => !tag.isEmpty

/-- Must the resource be sent, given the tags that the request names? -/
def isNewByTags (header tag : String) : Bool :=
  let tags := readTags header
  !(tags.contains "*" || tags.contains tag)

/-- Must the resource be sent, given the date that the request names? -/
def isNewByDate (header : String) (lastModified : Int) : Except Fault Bool :=
  (HttpDate.read header).map fun
    | none => true
    | some since => since.toSeconds < lastModified / 1000

/-- Must the resource be sent? -/
def isModified (request : Request) (tag : String) (lastModified : Int) : Except Fault Bool :=
  let tags := request.header "if-none-match" ""
  if tags.isEmpty then isNewByDate (request.header "if-modified-since" "") lastModified
  else .ok (isNewByTags tags tag)

/-- The text of the record about a resource that the client has. -/
def freshText (request : Request) (tag : String) : String :=
  s!"Not modified: {request.path} ({tag})"

/-- Writes the headers for caches. When the client has the resource and the request is one for
reading it, the response becomes "not modified"; when it must be sent, the date is written. -/
def apply (policy : CachePolicy) (request : Request) (lastModified : Int) : Handling Unit := do
  let tag := entityTag lastModified
  Handling.write (Sink.setHeader "Cache-Control" policy.control)
  Handling.write (Sink.setHeader "ETag" tag)
  if ← Handling.ofExcept (isModified request tag lastModified) then
    let date ← Handling.ofExcept (HttpDate.ofMillis lastModified)
    Handling.write (Sink.setHeader "Last-Modified" date)
  else if request.isConditional then
    Handling.note Channel.cache Level.debug (freshText request tag)
    Handling.write (Sink.setStatus .notModified)

end CachePolicy

end VersionedAssets
