import VersionedAssets.Query
import VersionedAssets.Text.Letter
import VersionedAssets.Text.Numeral

/-! # Requests

A request as handlers see it, and how it is built from the variables that a server sets for it.
Header names are kept in lower case.
-/

namespace VersionedAssets

/-- A request. -/
structure Request where
  method : String
  /-- The path without the query. -/
  path : String
  version : String := "HTTP/1.1"
  headers : Fields String := Fields.empty
  query : Fields (List String) := Fields.empty
  /-- Values that a router took from the path. -/
  params : Fields String := Fields.empty
  clientAddress : String := ""
  clientPort : Int := 0
  deriving DecidableEq, Repr

/-- The variables that a server sets for a request. -/
abbrev Environ := Fields String

namespace Environ

/-- A variable, or else the given value. -/
def getD (environ : Environ) (name fallback : String) : String := (environ.get? name).getD fallback

/-- The bytes of a text of characters up to U+00FF, one for each. -/
def latin1? (text : String) : Option Bytes :=
  if text.toList.all (·.toNat < 0x100) then
    some (text.toList.map fun c => UInt8.ofNat c.toNat)
  else none

/-- The path. It arrives with one character for each byte; bytes that are no text stay as they
are. -/
def path (environ : Environ) : String :=
  let raw := environ.getD "PATH_INFO" ""
  if raw.isEmpty then "/" else ((latin1? raw).bind Text.ofUtf8?).getD raw

/-- The header name that a variable stands for, if it stands for one. -/
def headerName? (variableName : String) : Option String :=
  if Text.startsWith variableName "HTTP_" then
    some (Text.lower (Text.swap '_' '-' (Text.dropFirst 5 variableName)))
  else none

/-- Writes the header that a variable stands for. -/
def addHeader (headers : Fields String) (entry : String × String) : Fields String :=
  match headerName? entry.1 with
  | some name => headers.put name entry.2
  | none => headers

/-- Writes a header from a variable that is set and not empty. -/
def addNonEmpty (environ : Environ) (variableName name : String) (headers : Fields String) :
    Fields String :=
  let value := environ.getD variableName ""
  if value.isEmpty then headers else headers.put name value

/-- The headers. Type and length of the content have variables of their own. -/
def headers (environ : Environ) : Fields String :=
  environ.addNonEmpty "CONTENT_LENGTH" "content-length" <|
    environ.addNonEmpty "CONTENT_TYPE" "content-type" <|
      environ.entries.foldl addHeader Fields.empty

/-- The port of the client; zero if it is not known. -/
def clientPort (environ : Environ) : Int :=
  match Text.Numeral.read (environ.getD "REMOTE_PORT" "") with
  | .ok port => port
  | .error _ => 0

end Environ

namespace Request

/-- The request that the variables describe. -/
def ofEnviron (environ : Environ) : Request where
  method := Text.upper (environ.getD "REQUEST_METHOD" "GET")
  path := environ.path
  version := environ.getD "SERVER_PROTOCOL" "HTTP/1.1"
  headers := environ.headers
  query := Query.read (environ.getD "QUERY_STRING" "")
  clientAddress := environ.getD "REMOTE_ADDR" ""
  clientPort := environ.clientPort

/-- A header, or else the given value. -/
def header (request : Request) (name fallback : String) : String :=
  (request.headers.get? (Text.lower name)).getD fallback

/-- The first value of a query parameter. -/
def queryValue? (request : Request) (name : String) : Option String :=
  (request.query.get? name).bind List.head?

/-- The program that the client says it is. -/
def userAgent (request : Request) : String := (request.headers.get? "user-agent").getD ""

/-- Does the request ask for the head of the response only? -/
def isHead (request : Request) : Bool := request.method == "HEAD"

/-- May a conditional header of the request lead to "not modified"? -/
def isConditional (request : Request) : Bool := request.method == "GET" || request.method == "HEAD"

end Request

end VersionedAssets
