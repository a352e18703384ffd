import VersionedAssets.HttpDate
import VersionedAssets.Json
import VersionedAssets.Status
import VersionedAssets.Text.Letter
import VersionedAssets.Text.Pieces
import VersionedAssets.Text.Utf8

/-! # Responses

A response under construction: status, headers and a body, which is either bytes or a stream. A
stream is named by its number among the streams opened so far. Once a response is committed, only
headers can still be written, and only by those who write them without asking.
-/

namespace VersionedAssets

/-- A response. -/
structure Response where
  status : Status := .ok
  headers : Fields String := Fields.empty
  body : Bytes := []
  /-- The number of the stream that the response owns. -/
  stream : Option Nat := none
  /-- The name under which a download is saved. -/
  filename : Option String := none
  version : String := "HTTP/1.1"
  committed : Bool := false
  deriving DecidableEq, Repr, Inhabited

namespace Response

/-- The first line of the response. -/
def statusLine (response : Response) : String := response.version ++ " " ++ response.status.line

/-- A header by its name in any case; the first one that was written. -/
def header? (response : Response) (name : String) : Option String :=
  (response.headers.entries.find? fun entry => Text.lower entry.1 == Text.lower name).map (·.2)

/-- The header written without asking whether the response is committed. -/
def assignHeader (response : Response) (name value : String) : Response :=
  { response with headers := response.headers.put name value }

/-- The length to announce: that of a bytes body, if the status allows one. -/
def announcedLength? (response : Response) : Option Nat :=
  if response.stream.isNone && response.status.allowsBody then some response.body.length else none

/-- The headers with the announced length, unless a length was written. -/
def framedHeaders (response : Response) : Fields String :=
  match response.announcedLength? with
  | some n => response.headers.putNew "Content-Length" (toString n)
  | none => response.headers

/-- The headers as they are sent, with date and server filled in. -/
def headerItems (response : Response) (now : Int) (server : String) :
    Except Fault (List (String × String)) := do
  let framed := response.framedHeaders
  if framed.has "Date" then return (framed.putNew "Server" server).entries
  else return ((framed.put "Date" (← HttpDate.ofMillis now)).putNew "Server" server).entries

/-- A filename inside of the quotes of a header: quotes and backslashes are escaped. -/
def escapeName (filename : String) : String :=
  String.ofList (filename.toList.flatMap fun c =>
    if c = '\\' then ['\\', '\\'] else if c = '"' then ['\\', '"'] else [c])

/-- The header value that makes a response a download. -/
def disposition (filename : String) : String :=
  "attachment; filename=\"" ++ escapeName filename ++ "\""

/-! ## Short responses -/

/-- The response with a JSON body. -/
def withJson (response : Response) (value : Json) (style : Json.Style) : Response :=
  { response with
    body := Text.utf8 (value.write style)
    headers := response.headers.put "Content-Type" "application/json; charset=utf-8" }

/-- A response that says what went wrong. -/
def ofError (status : Status) (message : String) : Response :=
  withJson { status } (.object [("error", .text message)]) {}

/-- The answer to a path that nothing is found at. -/
def notFound (message : String) : Response := ofError .notFound message

/-- The answer to a method that is not allowed, with those that are. -/
def methodNotAllowed (allowed : List String) : Response :=
  withJson
    { status := .methodNotAllowed
      headers := Fields.empty.put "Allow" (Text.join ", " allowed) }
    (.object [("error", .text "Method Not Allowed"), ("allowed", .array (allowed.map .text))]) {}

/-- The answer to a fault of the server. What went wrong is for the journal only. -/
def internalError (message : String) : Response := ofError .internalError message

end Response

end VersionedAssets
