import VersionedAssets.Response.Reader

/-! # Delivering a response

A delivery is a response with the readers of its body. Whoever writes the response and whoever sends
it act on it one operation at a time, in any order.
-/

namespace VersionedAssets

/-- A response, the streams opened so far, and the readers of the body. -/
structure Delivery where
  sink : Sink := {}
  readers : List Reader := []
  deriving DecidableEq, Repr, Inhabited

namespace Delivery

/-- What can be done to a response and its readers. -/
inductive Operation where
  | setStatus (code : Int)
  | setHeader (name value : String)
  | assignHeader (name value : String)
  | setBody (body : Bytes)
  | attach (stream : Stream)
  | attachFile (filename : String) (stream : Stream)
  | commit
  | release
  /-- Adds a reader with a size of chunks. -/
  | startReader (size : Int)
  | advanceReader (number : Int)
  | stopReader (number : Int)
  deriving DecidableEq, Repr

/-- Writes into the sink. -/
def write (delivery : Delivery) (operation : Writing Unit) :
    Except Fault (Option Bytes) × Delivery :=
  let (outcome, sink) := operation delivery.sink
  (outcome.map fun _ => none, { delivery with sink })

/-- The place of a reader in the list of readers. Negative numbers count from the end. -/
def place (delivery : Delivery) (number : Int) : Option Nat :=
  let index := if number < 0 then number + delivery.readers.length else number
  if 0 ≤ index ∧ index < delivery.readers.length then some index.toNat else none

/-- Uses a reader, which has to be there. -/
def useReader {α : Type} (delivery : Delivery) (number : Int)
    (use : Reader → Sink → Except Fault α × Reader × Sink) : Except Fault α × Delivery :=
  match delivery.place number with
  | none => (.error .index, delivery)
  | some index =>
    let (outcome, after, sink) := use (delivery.readers.getD index default) delivery.sink
    (outcome, { sink, readers := delivery.readers.set index after })

/-- Advances a reader. -/
def advance (delivery : Delivery) (number : Int) : Except Fault (Option Bytes) × Delivery :=
  delivery.useReader number Reader.advance

/-- Closes a reader. -/
def stop (delivery : Delivery) (number : Int) : Except Fault (Option Bytes) × Delivery :=
  let (outcome, after) := delivery.useReader number Reader.close
  (outcome.map fun _ => none, after)

/-- Carries an operation out; a reader that is advanced yields a chunk or none. -/
def perform (delivery : Delivery) : Operation → Except Fault (Option Bytes) × Delivery
  | .setStatus code => delivery.write (Sink.setStatusCode code)
  | .setHeader name value => delivery.write (Sink.setHeader name value)
  | .assignHeader name value =>
    delivery.write (Sink.modifyResponse fun response => response.assignHeader name value)
  | .setBody body => delivery.write (Sink.setBody body)
  | .attach stream => delivery.write do Sink.attach (← Sink.addStream stream)
  | .attachFile filename stream =>
    delivery.write do Sink.attachFile filename (← Sink.addStream stream)
  | .commit => delivery.write Sink.commit
  | .release => delivery.write Sink.release
  | .startReader size => (.ok none, { delivery with readers := delivery.readers ++ [.fresh size] })
  | .advanceReader number => delivery.advance number
  | .stopReader number => delivery.stop number

/-- Carries operations out one after the other, whatever becomes of each. -/
def performAll (delivery : Delivery) (operations : List Operation) : Delivery :=
  operations.foldl (fun current operation => (current.perform operation).2) delivery

end Delivery

end VersionedAssets
