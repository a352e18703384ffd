import VersionedAssets.MediaType
import VersionedAssets.Response
import VersionedAssets.Stream

/-! # Writing a response

A sink is a response together with the streams opened so far. Handlers write into it until they
commit it; after that every operation on it is refused. The response owns the stream of its body and
closes it when another one takes its place, when the response turns out to have no body, or when
it is released. A stream that fails to close is let go all the same.
-/

namespace VersionedAssets

/-- A response being written and the streams opened so far, in the order of their opening. -/
structure Sink where
  response : Response := {}
  streams : List Stream := []
  deriving DecidableEq, Repr, Inhabited

/-- An operation on a sink, which keeps what it did when it fails. -/
abbrev Writing (α : Type) := ExceptT Fault (StateM Sink) α

namespace Sink

/-- Changes the response. -/
def modifyResponse (change : Response → Response) : Writing Unit :=
  modify fun sink => { sink with response := change sink.response }

/-- Adds an opened stream and gives its number. -/
def addStream (stream : Stream) : Writing Nat := fun sink =>
  (.ok sink.streams.length, { sink with streams := sink.streams ++ [stream] })

/-- Uses a stream by its number. -/
def useStream {α : Type} (number : Nat) (use : Stream → Except Fault α × Stream) (missing : α) :
    Writing α := fun sink =>
  match sink.streams[number]? with
  | none => (.ok missing, sink)
  | some stream =>
    let (outcome, after) := use stream
    (outcome, { sink with streams := sink.streams.set number after })

/-- Closes a stream by its number. -/
def closeStream (number : Nat) : Writing Unit := useStream number Stream.close ()

/-- Refuses to go on when the response is committed. -/
def checkOpen : Writing Unit := do
  if (← get).response.committed then throw .committed

/-- Lets the stream of the response go. -/
def detach : Writing Unit := modifyResponse fun response => { response with stream := none }

/-- Closes the stream of the response and lets it go, also when closing fails. -/
def release : Writing Unit := do
  match (← get).response.stream with
  | none => pure ()
  | some number =>
    try closeStream number
    catch fault => do
      detach
      throw fault
    detach

/-- Sets the status. -/
def setStatus (status : Status) : Writing Unit := do
  checkOpen
  modifyResponse fun response => { response with status }

/-- The status with a code. A code without a status is refused. -/
def statusOf (code : Int) : Except Fault Status :=
  match Status.ofCode? code with
  | some status => .ok status
  | none => .error (.value (.status code))

/-- Sets the status with a code. -/
def setStatusCode (code : Int) : Writing Unit := do
  checkOpen
  match statusOf code with
  | .ok status => modifyResponse fun response => { response with status }
  | .error fault => throw fault

/-- Writes a header. -/
def setHeader (name value : String) : Writing Unit := do
  checkOpen
  modifyResponse fun response => response.assignHeader name value

/-- Sets a body of bytes. A stream that was attached stays. -/
def setBody (body : Bytes) : Writing Unit := do
  checkOpen
  modifyResponse fun response => { response with body }

/-- Makes a stream the body. The response owns it from now on and closes the one before. -/
def attach (number : Nat) : Writing Unit := do
  checkOpen
  release
  modifyResponse fun response => { response with stream := some number, body := [] }

/-- Makes a stream the body of a download with a name. -/
def attachFile (filename : String) (number : Nat) : Writing Unit := do
  attach number
  modifyResponse fun response =>
    let named := { response with filename := some filename }
    let typed := if (named.header? "Content-Type").isSome then named
      else named.assignHeader "Content-Type" (MediaTypes.downloadType filename)
    typed.assignHeader "Content-Disposition" (Response.disposition filename)

/-- Makes the response final. A status without a body lets the body go first; if that fails, the
response is not committed. -/
def commit : Writing Unit := do
  checkOpen
  if !(← get).response.status.allowsBody then
    release
    modifyResponse fun response => { response with body := [] }
  modifyResponse fun response => { response with committed := true }

end Sink

end VersionedAssets
