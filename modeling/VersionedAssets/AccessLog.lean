import VersionedAssets.Middleware

/-! # Access log

One record for each request: who asked for what, the answer, and how long it took, as a line of text
or as a JSON object. The layer that writes it also numbers requests in a header. Stream bodies have
no length before they are sent, so a length is known for them only if it was written as a header.
-/

namespace VersionedAssets

/-- How access records are written. -/
inductive LogFormat where
  | text
  | json
  deriving DecidableEq, Repr, Inhabited

namespace LogFormat

/-- The format with a name. -/
def ofName? (name : String) : Option LogFormat :=
  if name = "text" then some text else if name = "json" then some json else none

/-- The names of the formats. -/
def names : List String := ["text", "json"]

end LogFormat

/-- A number of milliseconds, which may have been counted or measured. -/
inductive Duration where
  | whole (millis : Int)
  | fractional (millis : Float)
  deriving Inhabited

namespace Duration

/-- The duration as JSON; what was measured is rounded to hundredths. -/
def toJson : Duration → Json
  | whole n => .int n
  | fractional x => .float (Number.FloatText.roundToTwoPlaces x)

/-- The text with two decimal places, which is that of the nearest float. There is none for a number
that is too large. -/
def text : Duration → Except Fault String
  | fractional x => .ok (Number.FloatText.twoPlaces x)
  | whole n =>
    match Number.Binary64.ofQuotient? (n < 0) n.natAbs 1 with
    | some x => .ok (Number.FloatText.twoPlacesOf x)
    | none => .error (.overflow .integerTooLarge)

end Duration

/-- What an access record says about a request. -/
structure AccessEntry where
  requestId : String
  method : String
  path : String
  query : String
  clientAddress : String
  userAgent : String
  statusCode : Int
  contentLength : Option Int
  /-- The time from the arrival of the request to its answer. -/
  duration : Duration
  timestamp : String

namespace AccessEntry

/-- The members of the JSON object. -/
def members (entry : AccessEntry) : List (String × Json) := [
  ("request_id", .text entry.requestId),
  ("method", .text entry.method),
  ("path", .text entry.path),
  ("query", .text entry.query),
  ("client_ip", .text entry.clientAddress),
  ("user_agent", .text entry.userAgent),
  ("status_code", .int entry.statusCode),
  ("content_length", (entry.contentLength.map Json.int).getD .null),
  ("duration_ms", entry.duration.toJson),
  ("timestamp", .text entry.timestamp)]

/-- The entry as a JSON object in ASCII. -/
def toJson (entry : AccessEntry) : String :=
  (Json.object entry.members).write { ascii := true }

/-- The size of the answer; a dash if it is not known. -/
def size (entry : AccessEntry) : String :=
  match entry.contentLength with
  | some n => toString n
  | none => "-"

/-- The address of the client; a dash if it is not known. -/
def client (entry : AccessEntry) : String :=
  if entry.clientAddress.isEmpty then "-" else entry.clientAddress

/-- The entry as a line of text. -/
def toText (entry : AccessEntry) : Except Fault String :=
  entry.duration.text.map fun duration =>
    entry.client ++ " - - [" ++ entry.timestamp ++ "] \"" ++ entry.method ++ " " ++ entry.path ++
      "\" " ++ toString entry.statusCode ++ " " ++ entry.size ++ " " ++ duration ++ "ms"

end AccessEntry

/-- A layer that writes access records. -/
structure AccessLog where
  format : LogFormat := .text
  includeId : Bool := true
  level : Level := Level.info
  /-- The paths that no record is written for. -/
  skipPaths : List String := []
  deriving DecidableEq, Repr

namespace AccessLog

/-- The layer with the format of the given name. -/
def ofFormat (log : AccessLog) (name : String) : Except Fault AccessLog :=
  match LogFormat.ofName? name with
  | some format => .ok { log with format }
  | none => .error (.value (.logFormat name))

/-- The length of the answer: the one that was written as a header, if it is a numeral, or else that
of a bytes body. -/
def contentLength (response : Response) : Except Fault (Option Int) :=
  match response.header? "Content-Length" with
  | some declared =>
    if Text.allDigits declared then
      match Text.Numeral.read declared with
      | .ok n => .ok (some n)
      | .error fault => .error (.value (.numeral fault))
    else .ok none
  | none => .ok (if response.stream.isSome then none else some response.body.length)

/-- What is recorded about a request. -/
def entry (request : Request) (response : Response) (requestId : String)
    (duration : Duration) (timestamp : String) : Except Fault AccessEntry :=
  (contentLength response).map fun contentLength =>
    { requestId, method := request.method, path := request.path
      query := Query.render request.query, clientAddress := request.clientAddress
      userAgent := if request.userAgent.isEmpty then "-" else request.userAgent
      statusCode := response.status.code, contentLength, duration, timestamp }

/-- The text of a record in the format of the layer. -/
def render (log : AccessLog) (entry : AccessEntry) : Except Fault String :=
  match log.format with
  | .text => entry.toText
  | .json => .ok entry.toJson

/-- The text of the record about a request that failed. -/
def failureText (request : Request) (fault : Fault) (duration : Float) : String :=
  "Request failed: " ++ request.method ++ " " ++ request.path ++ " - " ++ fault.kind ++ ": " ++
    fault.message ++ " (" ++ Number.FloatText.twoPlaces duration ++ "ms)"

/-- The milliseconds since a reading of the clock. -/
def since (started : Float) : Serving Float := do
  return ((← Serving.readClock) - started) * 1000

/-- Writes the record about an answer. -/
def record (log : AccessLog) (request : Request) (response : Response) (requestId : String)
    (duration : Float) : Serving Unit := do
  let { timestamp, .. } ← get
  match entry request response requestId (.fractional duration) timestamp >>= log.render with
  | .ok text => Serving.note Channel.access log.level text
  | .error fault => throw fault

/-- Asks the inner responder, and records a fault before it goes on. -/
def attempt (inner : Responder) (request : Request) (started : Float) : Serving Response := do
  try inner request
  catch fault => do
    let duration ← since started
    Serving.note Channel.access Level.error (failureText request fault duration)
    throw fault

/-- The answer of the inner responder, recorded and numbered. -/
def respond (log : AccessLog) (inner : Responder) : Responder := fun request => do
  let requestId ← Serving.drawId
  let started ← Serving.readClock
  let response ← attempt inner request started
  let duration ← since started
  let numbered := if log.includeId then response.assignHeader "X-Request-ID" requestId else response
  if !log.skipPaths.contains request.path then log.record request numbered requestId duration
  return numbered

/-- The layer as middleware. -/
def toMiddleware (log : AccessLog) : Middleware where
  name := "LoggingMiddleware"
  around := log.respond

end AccessLog

end VersionedAssets
