import VersionedAssets.Fault
import VersionedAssets.Text.Utf8

/-! # Streams

A byte stream that is read in chunks and closed once. Where its bytes come from decides which sizes
of chunks may be asked for. A stream may be faulty: chosen reads fail, and so may the first close,
which closes the stream all the same.
-/

namespace VersionedAssets

/-- Where the bytes of a stream come from. -/
inductive StreamSource where
  | memory
  | file
  | archive
  deriving DecidableEq, Repr, Inhabited

namespace StreamSource

/-- One more than the largest size of anything in memory. -/
def sizeLimit : Int := 0x8000000000000000

/-- What a chunk takes in memory besides its bytes. -/
def overhead : Int := 33

/-- A size that is more than the memory there is. -/
def memoryLimit : Int := 0x8000000000

/-- The fault of asking for a chunk of a size. Files set the memory for a chunk aside beforehand and
know only one negative size; members of archives take any size. -/
def sizeFault? (source : StreamSource) (size : Int) : Option Fault :=
  let misfit := size < -sizeLimit || sizeLimit ≤ size
  match source with
  | archive => none
  | memory => if misfit then some (.overflow .chunkSize) else none
  | file =>
    if misfit then some (.overflow .chunkSize)
    else if size < -1 then some (.value .readLength)
    else if sizeLimit - overhead ≤ size then some (.overflow .chunkTooLarge)
    else if memoryLimit ≤ size then some .memory
    else none

end StreamSource

/-- A byte stream. -/
structure Stream where
  /-- What has not been read yet. -/
  rest : Bytes
  source : StreamSource := .memory
  /-- How many reads were tried. -/
  reads : Nat := 0
  /-- The reads that fail, counted from one. -/
  failingReads : List Nat := []
  /-- Does the first close fail? -/
  failsToClose : Bool := false
  isClosed : Bool := false
  deriving DecidableEq, Repr, Inhabited

namespace Stream

/-- Reads at most `size` bytes, or all that is left for a negative size. Asking for a size that the
source cannot give counts as a read. -/
def read (stream : Stream) (size : Int) : Except Fault Bytes × Stream :=
  let tried := { stream with reads := stream.reads + 1 }
  if tried.failingReads.contains tried.reads then (.error (.io .device), tried)
  else match tried.source.sizeFault? size with
    | some fault => (.error fault, tried)
    | none =>
      if tried.isClosed then (.error (.value .closedStream), tried)
      else
        let count := if size < 0 then tried.rest.length else size.toNat
        (.ok (tried.rest.take count), { tried with rest := tried.rest.drop count })

/-- Closes the stream. Closing it again does nothing. -/
def close (stream : Stream) : Except Fault Unit × Stream :=
  if stream.isClosed then (.ok (), stream)
  else
    (if stream.failsToClose then .error (.io .device) else .ok (),
      { stream with isClosed := true })

end Stream

end VersionedAssets
