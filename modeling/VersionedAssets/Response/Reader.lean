import VersionedAssets.Response.Sink

/-! # Reading the body of a response

A reader hands the body of a response out in chunks. It looks at the response when it is first
advanced: bytes come as one chunk, a stream is read chunk by chunk and closed at its end, at a
fault, and when the reader is closed before. Several readers of one response share its stream.
-/

namespace VersionedAssets

/-- How far a reader has come. -/
inductive Reader where
  /-- Not advanced yet. -/
  | fresh (size : Int)
  /-- Between two chunks of a stream. -/
  | reading (number : Nat) (size : Int)
  /-- After the bytes of the body. -/
  | spent
  | finished
  deriving DecidableEq, Repr, Inhabited

/-- The size of a chunk unless it is given. -/
def Reader.defaultSize : Int := 64 * 1024

namespace Sink

/-- Closes a stream that a reader is done with and lets the stream of the response go. -/
def finish (number : Nat) : Writing Unit := do
  closeStream number
  detach

/-- The next chunk of a stream; none at its end, after which the stream is closed, as it is after a
fault. -/
def pull (number : Nat) (size : Int) : Writing (Option Bytes) := do
  let chunk ← try useStream number (·.read size) []
    catch fault => do
      finish number
      throw fault
  if chunk.isEmpty then
    finish number
    return none
  else return some chunk

end Sink

namespace Reader

/-- The next chunk of a stream and how far the reader has come then. -/
def advanceStream (number : Nat) (size : Int) (sink : Sink) :
    Except Fault (Option Bytes) × Reader × Sink :=
  match Sink.pull number size sink with
  | (.ok (some chunk), after) => (.ok (some chunk), .reading number size, after)
  | (outcome, after) => (outcome, .finished, after)

/-- The next chunk, none at the end. A reader that ended or failed hands nothing out any more. -/
def advance (reader : Reader) (sink : Sink) : Except Fault (Option Bytes) × Reader × Sink :=
  match reader with
  | fresh size =>
    match sink.response.stream with
    | some number => advanceStream number size sink
    | none =>
      if sink.response.body.isEmpty then (.ok none, finished, sink)
      else (.ok (some sink.response.body), spent, sink)
  | reading number size => advanceStream number size sink
  | spent => (.ok none, finished, sink)
  | finished => (.ok none, finished, sink)

/-- Closes a reader. Only one that is between two chunks of a stream has a stream to close. -/
def close (reader : Reader) (sink : Sink) : Except Fault Unit × Reader × Sink :=
  match reader with
  | reading number _ =>
    let (outcome, after) := Sink.finish number sink
    (outcome, finished, after)
  | _ => (.ok (), finished, sink)

/-- Advances a reader until it ends, fails or has handed out `count` chunks. -/
def take (reader : Reader) (sink : Sink) : Nat → List Bytes × Option Fault × Reader × Sink
  | 0 => ([], none, reader, sink)
  | count + 1 =>
    match reader.advance sink with
    | (.error fault, reader, sink) => ([], some fault, reader, sink)
    | (.ok none, reader, sink) => ([], none, reader, sink)
    | (.ok (some chunk), reader, sink) =>
      let (chunks, rest) := reader.take sink count
      (chunk :: chunks, rest)

/-- More chunks than a reader of the sink can hand out: every chunk of a stream has a byte. -/
def enough (sink : Sink) : Nat :=
  sink.streams.foldr (fun stream count => stream.rest.length + count) 2

/-- Advances a reader until it ends or fails. -/
def drain (reader : Reader) (sink : Sink) : List Bytes × Option Fault × Reader × Sink :=
  reader.take sink (enough sink)

/-- How much of a body is taken. -/
inductive Extent where
  | all
  | atMost (count : Nat)
  deriving DecidableEq, Repr

/-- The chunks that a reader hands out, whether that went well, and the reader and the sink
afterwards. A reader that is left before its end is closed. -/
def collect (reader : Reader) (extent : Extent) (sink : Sink) :
    List Bytes × Except Fault Unit × Reader × Sink :=
  match extent with
  | .all =>
    let (chunks, fault, after) := reader.drain sink
    (chunks, (fault.map Except.error).getD (.ok ()), after)
  | .atMost count =>
    match reader.take sink count with
    | (chunks, some fault, after) => (chunks, .error fault, after)
    | (chunks, none, reader, sink) => (chunks, reader.close sink)

end Reader

end VersionedAssets
