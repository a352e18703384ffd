import VersionedAssets.Proofs.Response.Draining

/-! # Readers that share a stream

The readers of a response all read the one stream that it has, at the one position of that stream,
and each of them may be left anywhere. What they hand out together is a beginning of the data of the
stream, in its order. A reader that came to read the stream ends well only behind the whole data,
and when it is over, however that came, the stream is closed and the response has let it go.
-/

namespace VersionedAssets

open Actions

namespace Stream

variable {stream : Stream} {size : Int}

theorem read_failsToClose (stream : Stream) (size : Int) :
    (stream.read size).2.failsToClose = stream.failsToClose := by
  obtain ⟨rest, reads, hread⟩ := stream.exists_read_snd size
  rw [hread]

/-- The chunk is no longer than the size, if that is positive. -/
def Fits (size : Int) (chunk : Bytes) : Prop := 0 < size → (chunk.length : Int) ≤ size

theorem fits_portion (size : Int) (rest : Bytes) : Fits size (rest.take (portion size rest)) := by
  intro hpos
  rw [portion, if_neg (by omega), List.length_take]
  omega

/-- A read that finds nothing is at the end, unless nothing was asked for. -/
theorem rest_eq_nil_of_take (hsize : size ≠ 0) {rest : Bytes}
    (hnil : rest.take (portion size rest) = []) : rest = [] := by
  unfold portion at hnil
  rcases List.take_eq_nil_iff.mp hnil with hzero | hrest
  · split at hzero
    · exact List.length_eq_zero_iff.mp hzero
    · omega
  · exact hrest

end Stream

namespace Sink

/-- What was handed out of the stream and what is left of it make up the data. The response has no
bytes and no other stream, and it has this one, which closes without a fault, as long as it is
open. -/
structure Feeds (number : Nat) (data : Bytes) (handed : List Bytes) (sink : Sink) : Prop where
  body : sink.response.body = []
  owned : ∀ other, sink.response.stream = some other → other = number
  exists_stream : ∃ stream, sink.streams[number]? = some stream ∧
    (sink.response.stream = some number ↔ stream.isClosed = false) ∧
    stream.failsToClose = false ∧ handed.flatten ++ stream.rest = data

section

variable {number : Nat} {data : Bytes} {handed : List Bytes} {sink : Sink} {stream : Stream}

theorem Loosens.stream_eq_none {response : Response} (hloosens : Loosens response sink)
    (hnone : response.stream = none) : sink.response.stream = none := by
  rcases hloosens with hsame | hgone
  · rwa [hsame]
  · rw [hgone]

/-- A response that has let its stream go has closed it. -/
theorem Feeds.isClosed (hfeeds : sink.Feeds number data handed)
    (hgone : sink.response.stream = none) :
    ∃ stream, sink.streams[number]? = some stream ∧ stream.isClosed = true := by
  obtain ⟨stream, hstream, hopen, -, -⟩ := hfeeds.exists_stream
  refine ⟨stream, hstream, ?_⟩
  rw [← Bool.not_eq_false, ← hopen, hgone]
  exact Option.some_ne_none number ∘ Eq.symm

theorem Feeds.freed (hfeeds : sink.Feeds number data handed)
    (hstream : sink.streams[number]? = some stream) :
    (sink.freed number stream).Feeds number data handed := by
  obtain ⟨hbody, -, other, hother, -, hcloses, hdata⟩ := hfeeds
  obtain rfl := Option.some.inj (hstream.symm.trans hother)
  have hlt := (List.getElem?_eq_some_iff.mp hstream).1
  exact ⟨hbody, nofun, stream.closed, by simp [Sink.freed, hlt],
    by simp [Sink.freed, Stream.closed], hcloses, hdata⟩

theorem Feeds.readFrom {size : Int} (hfeeds : sink.Feeds number data handed)
    (hstream : sink.streams[number]? = some stream) (chunks : List Bytes)
    (hrest : chunks.flatten ++ (stream.read size).2.rest = stream.rest) :
    (sink.readFrom number stream size).Feeds number data (handed ++ chunks) := by
  obtain ⟨hbody, howned, other, hother, hopen, hcloses, hdata⟩ := hfeeds
  obtain rfl := Option.some.inj (hstream.symm.trans hother)
  have hlt := (List.getElem?_eq_some_iff.mp hstream).1
  refine ⟨hbody, howned, (stream.read size).2, by simp [Sink.readFrom, hlt], ?_, ?_, ?_⟩
  · rw [Stream.read_snd_isClosed]
    exact hopen
  · rw [Stream.read_failsToClose]
    exact hcloses
  · rw [List.flatten_append, List.append_assoc, hrest, hdata]

theorem Feeds.readOut {size : Int} (hfeeds : sink.Feeds number data handed)
    (hstream : sink.streams[number]? = some stream) (chunks : List Bytes)
    (hrest : chunks.flatten ++ (stream.read size).2.rest = stream.rest) :
    (sink.readOut number stream size).Feeds number data (handed ++ chunks) := by
  have hlt := (List.getElem?_eq_some_iff.mp hstream).1
  have hread : (sink.readFrom number stream size).streams[number]? = some (stream.read size).2 := by
    simp [Sink.readFrom, hlt]
  have hfreed := (hfeeds.readFrom hstream chunks hrest).freed hread
  rwa [freed_readFrom] at hfreed

/-- Being done with a stream that closes without a fault lets it go. -/
theorem Feeds.finish (hfeeds : sink.Feeds number data handed) :
    (Sink.finish number sink).2.Feeds number data handed ∧
      (Sink.finish number sink).2.response.stream = none := by
  obtain ⟨stream, hstream, -, hcloses, -⟩ := id hfeeds.exists_stream
  rw [finish_of_closes hstream (Stream.close_fst_of_closes hcloses)]
  exact ⟨hfeeds.freed hstream, rfl⟩

theorem Feeds.release (hfeeds : sink.Feeds number data handed) :
    (Sink.release sink).2.Feeds number data handed := by
  cases hattached : sink.response.stream with
  | none =>
      rw [release_of_no_stream hattached]
      exact hfeeds
  | some other =>
      obtain rfl := hfeeds.owned other hattached
      obtain ⟨stream, hstream, -⟩ := id hfeeds.exists_stream
      rw [release_of_owned hattached hstream]
      exact hfeeds.freed hstream

end

end Sink

/-! ## Readers -/

namespace Reader

open Sink

/-- The reader has the size, unless it is over, and it is between two chunks of no other stream. -/
inductive Has (number : Nat) (size : Int) : Reader → Prop
  | fresh : Has number size (.fresh size)
  | reading : Has number size (.reading number size)
  | finished : Has number size .finished

/-- The reader came to read the stream, and when it is over, the response has let its stream go. -/
inductive Underway (number : Nat) (sink : Sink) : Reader → Prop
  | reading (size : Int) : Underway number sink (.reading number size)
  | finished (hgone : sink.response.stream = none) : Underway number sink .finished

theorem Underway.mono {number : Nat} {sink after : Sink} {reader : Reader}
    (hunderway : reader.Underway number sink)
    (hgone : sink.response.stream = none → after.response.stream = none) :
    reader.Underway number after := by
  cases hunderway with
  | reading size => exact .reading size
  | finished hnone => exact .finished (hgone hnone)

/-- What advancing a reader with a size comes to. -/
inductive Moves (number : Nat) (data : Bytes) (handed : List Bytes) (size : Int) (sink : Sink)
    (reader : Reader) : Except Fault (Option Bytes) × Reader × Sink → Prop
  /-- The next chunk of the stream. -/
  | chunk {chunk : Bytes} {after : Sink} (hreads : reader.Reads sink number size)
      (hne : chunk ≠ []) (hfits : Stream.Fits size chunk)
      (hfeeds : after.Feeds number data (handed ++ [chunk])) :
      Moves number data handed size sink reader (.ok (some chunk), .reading number size, after)
  /-- The end of the data. -/
  | ended {after : Sink} (hreads : reader.Reads sink number size)
      (hall : size ≠ 0 → handed.flatten = data) (hfeeds : after.Feeds number data handed)
      (hgone : after.response.stream = none) :
      Moves number data handed size sink reader (.ok none, .finished, after)
  /-- A fault, as it is one to read a stream that another reader closed. -/
  | failed {fault : Fault} {after : Sink} (hreads : reader.Reads sink number size)
      (hfeeds : after.Feeds number data handed) (hgone : after.response.stream = none) :
      Moves number data handed size sink reader (.error fault, .finished, after)
  /-- Nothing, for a reader that is over or comes too late to read the stream. -/
  | idle (hidle : reader.IsIdle) (hlate : reader ≠ .finished → sink.response.stream = none) :
      Moves number data handed size sink reader (.ok none, .finished, sink)

section

variable {number : Nat} {data : Bytes} {handed : List Bytes} {size : Int} {sink : Sink}
  {reader : Reader}

theorem moves_advanceStream (hfeeds : sink.Feeds number data handed)
    (hreads : reader.Reads sink number size) :
    Moves number data handed size sink reader (advanceStream number size sink) := by
  obtain ⟨stream, hstream, -, hcloses, hdata⟩ := id hfeeds.exists_stream
  rcases stream.read_outcome size with ⟨fault, hread, hrest⟩ | ⟨-, hread, hrest⟩
  · have hout := hfeeds.readOut hstream [] hrest
    rw [List.append_nil] at hout
    simp only [advanceStream, pull_of_fault hstream hcloses hread]
    exact .failed hreads hout rfl
  · by_cases hend : stream.rest.take (Stream.portion size stream.rest) = []
    · have hleft : (stream.read size).2.rest = stream.rest := by
        rw [hrest, ← List.nil_append (List.drop _ _), ← hend, List.take_append_drop]
      have hout := hfeeds.readOut hstream [] hleft
      rw [List.append_nil] at hout
      rw [hend] at hread
      simp only [advanceStream, pull_of_end hstream hcloses hread]
      refine .ended hreads (fun hsize => ?_) hout rfl
      rw [← hdata, Stream.rest_eq_nil_of_take hsize hend, List.append_nil]
    · simp only [advanceStream, pull_of_chunk hstream hread hend]
      refine .chunk hreads hend (Stream.fits_portion _ _) (hfeeds.readFrom hstream [_] ?_)
      rw [hrest, List.flatten_singleton, List.take_append_drop]

theorem moves_advance (hfeeds : sink.Feeds number data handed) (hhas : reader.Has number size) :
    Moves number data handed size sink reader (reader.advance sink) := by
  cases hhas with
  | fresh =>
      cases hattached : sink.response.stream with
      | some other =>
          obtain rfl := hfeeds.owned other hattached
          have hreads : (fresh size).Reads sink other size := .inr ⟨rfl, hattached⟩
          rw [advance_of_reads hreads]
          exact moves_advanceStream hfeeds hreads
      | none =>
          have hidle : (Reader.fresh size).IsIdle := trivial
          rw [advance_of_isIdle hidle hattached hfeeds.body]
          exact .idle hidle fun _ => hattached
  | reading =>
      have hreads : (reading number size).Reads sink number size := .inl rfl
      rw [advance_of_reads hreads]
      exact moves_advanceStream hfeeds hreads
  | finished => exact .idle trivial fun hne => absurd rfl hne

namespace Moves

variable {run : Except Fault (Option Bytes) × Reader × Sink}
  (hmoves : Moves number data handed size sink reader run)

include hmoves

/-- What was handed out then is the beginning of the data still. -/
theorem feeds (hfeeds : sink.Feeds number data handed) :
    run.2.2.Feeds number data (handed ++ run.1.toOption.join.toList) := by
  cases hmoves with
  | chunk _ _ _ hafter => exact hafter
  | ended _ _ hafter => exact (List.append_nil handed).symm ▸ hafter
  | failed _ hafter => exact (List.append_nil handed).symm ▸ hafter
  | idle => exact (List.append_nil handed).symm ▸ hfeeds

theorem has : run.2.1.Has number size := by
  cases hmoves with
  | chunk => exact .reading
  | _ => exact .finished

theorem underway (hbegun : reader.Reads sink number size ∨ reader.Underway number sink) :
    run.2.1.Underway number run.2.2 := by
  cases hmoves with
  | chunk => exact .reading size
  | ended _ _ _ hgone => exact .finished hgone
  | failed _ _ hgone => exact .finished hgone
  | idle hidle hlate =>
      rcases hbegun with (rfl | ⟨rfl, hattached⟩) | hunderway
      · exact hidle.elim
      · cases (hlate nofun).symm.trans hattached
      · cases hunderway with
        | reading => exact hidle.elim
        | finished hgone => exact .finished hgone

end Moves

/-- Closing a reader. -/
theorem feeds_close (hfeeds : sink.Feeds number data handed) (hhas : reader.Has number size) :
    (reader.close sink).2.2.Feeds number data handed ∧ (reader.close sink).2.1 = .finished ∧
      (reader.Underway number sink → (reader.close sink).2.2.response.stream = none) := by
  cases hhas with
  | fresh => exact ⟨hfeeds, rfl, nofun⟩
  | reading =>
      obtain ⟨hfinished, hgone⟩ := hfeeds.finish
      exact ⟨hfinished, rfl, fun _ => hgone⟩
  | finished =>
      refine ⟨hfeeds, rfl, fun hunderway => ?_⟩
      cases hunderway with
      | finished hgone => exact hgone

end

end Reader

/-! ## Deliveries -/

namespace Delivery

open Sink

/-- The size of the reader that the operation starts, if it starts one. -/
def Operation.started : Operation → List Int
  | .startReader size => [size]
  | _ => []

/-- The sizes of the readers that are started, in the order of the readers. -/
def startedSizes (operations : List Operation) : List Int :=
  operations.flatMap Operation.started

/-- The chunks that the readers hand out in a run, in the order in which they do. -/
def handedOut (delivery : Delivery) : List Operation → List Bytes
  | [] => []
  | operation :: rest =>
    (delivery.perform operation).1.toOption.join.toList ++
      (delivery.perform operation).2.handedOut rest

/-- The readers with these sizes read the one stream of the response. -/
structure Feeds (number : Nat) (data : Bytes) (handed : List Bytes) (sizes : List Int)
    (delivery : Delivery) : Prop where
  sink : delivery.sink.Feeds number data handed
  length_eq : delivery.readers.length = sizes.length
  readers : ∀ (index : Nat) (reader : Reader), delivery.readers[index]? = some reader →
    ∃ size, sizes[index]? = some size ∧ Reader.Has number size reader

/-- The reader in the place came to read the stream. -/
def Underway (number index : Nat) (delivery : Delivery) : Prop :=
  ∃ reader, delivery.readers[index]? = some reader ∧ reader.Underway number delivery.sink

section

variable {delivery : Delivery} {number index : Nat} {data : Bytes} {handed : List Bytes}
  {sizes : List Int} {operation : Operation}

theorem perform_advanceReader {place : Int} {reader : Reader}
    (hplace : delivery.place place = some index)
    (hreader : delivery.readers[index]? = some reader) :
    delivery.perform (.advanceReader place) =
      ((reader.advance delivery.sink).1,
        { sink := (reader.advance delivery.sink).2.2
          readers := delivery.readers.set index (reader.advance delivery.sink).2.1 }) := by
  simp [perform, advance, useReader, hplace, List.getD_eq_getElem?_getD, hreader]

theorem perform_stopReader {place : Int} {reader : Reader}
    (hplace : delivery.place place = some index)
    (hreader : delivery.readers[index]? = some reader) :
    (delivery.perform (.stopReader place)).2 =
      { sink := (reader.close delivery.sink).2.2
        readers := delivery.readers.set index (reader.close delivery.sink).2.1 } := by
  simp [perform, stop, useReader, hplace, List.getD_eq_getElem?_getD, hreader]

/-- Only a reader that is advanced hands a chunk out. -/
theorem perform_chunk (hother : ∀ place, operation ≠ .advanceReader place) :
    (delivery.perform operation).1.toOption.join.toList = [] := by
  have hnone {α : Type} (outcome : Except Fault α) :
      (outcome.map fun _ => (none : Option Bytes)).toOption.join.toList = [] := by
    cases outcome <;> rfl
  have hwrite (writing : Writing Unit) :
      (delivery.write writing).1.toOption.join.toList = [] := hnone (writing delivery.sink).1
  cases operation with
  | startReader => rfl
  | advanceReader place => exact absurd rfl (hother place)
  | stopReader place => exact hnone (delivery.useReader place Reader.close).1
  | _ => exact hwrite _

theorem started_eq_nil (hother : ∀ size, operation ≠ .startReader size) :
    operation.started = [] := by
  cases operation with
  | startReader size => exact absurd rfl (hother size)
  | _ => rfl

namespace Feeds

variable (hfeeds : Delivery.Feeds number data handed sizes delivery)

include hfeeds

/-- A reader that is used goes on with its size. -/
theorem set {after : Sink} {reader : Reader} {handed' : List Bytes} {size : Int}
    (hsize : sizes[index]? = some size) (hsink : after.Feeds number data handed')
    (hhas : Reader.Has number size reader) :
    Delivery.Feeds number data handed' sizes
      { sink := after, readers := delivery.readers.set index reader } := by
  refine ⟨hsink, by rw [List.length_set, hfeeds.length_eq], fun place other hother => ?_⟩
  rw [List.getElem?_set] at hother
  split at hother
  next hsame =>
    subst hsame
    obtain rfl : reader = other := by simpa using (Option.ite_none_right_eq_some.mp hother).2
    exact ⟨size, hsize, hhas⟩
  next => exact hfeeds.readers place other hother

theorem start (size : Int) :
    Delivery.Feeds number data handed (sizes ++ [size])
      { delivery with readers := delivery.readers ++ [.fresh size] } := by
  refine ⟨hfeeds.sink, by simp [hfeeds.length_eq], fun place reader hreader => ?_⟩
  dsimp only at hreader
  by_cases hlt : place < delivery.readers.length
  · rw [List.getElem?_append_left hlt] at hreader
    rw [List.getElem?_append_left (hfeeds.length_eq ▸ hlt)]
    exact hfeeds.readers place reader hreader
  · rw [Nat.not_lt] at hlt
    rw [List.getElem?_append_right hlt, List.getElem?_singleton, hfeeds.length_eq] at hreader
    rw [List.getElem?_append_right (hfeeds.length_eq ▸ hlt), List.getElem?_singleton]
    obtain ⟨hzero, hnew⟩ := Option.ite_none_right_eq_some.mp hreader
    obtain rfl := Option.some.inj hnew
    exact ⟨size, if_pos hzero, .fresh⟩

/-- What was handed out and what is left stay the data, whatever a server does. -/
theorem perform (hserved : operation.IsServed) :
    Delivery.Feeds number data (handed ++ (delivery.perform operation).1.toOption.join.toList)
      (sizes ++ operation.started) (delivery.perform operation).2 := by
  cases operation with
  | startReader size =>
      rw [perform_chunk (by simp), List.append_nil]
      exact hfeeds.start size
  | release =>
      rw [perform_chunk (by simp), started_eq_nil (by simp), List.append_nil, List.append_nil]
      exact ⟨hfeeds.sink.release, hfeeds.length_eq, hfeeds.readers⟩
  | advanceReader place =>
      rw [started_eq_nil (by simp), List.append_nil]
      rcases delivery.useReader_cases place Reader.advance with
        ⟨-, hrun⟩ | ⟨index, reader, hplace, hreader, -⟩
      · rw [Delivery.perform, Delivery.advance, hrun]
        exact (List.append_nil handed).symm ▸ hfeeds
      · obtain ⟨size, hsize, hhas⟩ := hfeeds.readers index reader hreader
        have hmoves := Reader.moves_advance hfeeds.sink hhas
        rw [perform_advanceReader hplace hreader]
        exact hfeeds.set hsize (hmoves.feeds hfeeds.sink) hmoves.has
  | stopReader place =>
      rw [perform_chunk (by simp), started_eq_nil (by simp), List.append_nil, List.append_nil]
      rcases delivery.useReader_cases place Reader.close with
        ⟨-, hrun⟩ | ⟨index, reader, hplace, hreader, -⟩
      · rw [Delivery.perform, Delivery.stop, hrun]
        exact hfeeds
      · obtain ⟨size, hsize, hhas⟩ := hfeeds.readers index reader hreader
        obtain ⟨hsink, hover, -⟩ := Reader.feeds_close hfeeds.sink hhas
        rw [perform_stopReader hplace hreader, hover]
        exact hfeeds.set hsize hsink .finished
  | _ => exact hserved.elim

theorem performAll {operations : List Operation}
    (hserved : ∀ operation ∈ operations, operation.IsServed) :
    Delivery.Feeds number data (handed ++ delivery.handedOut operations)
      (sizes ++ startedSizes operations) (delivery.performAll operations) := by
  induction operations generalizing delivery handed sizes with
  | nil =>
      rw [handedOut, startedSizes, List.flatMap_nil, List.append_nil, List.append_nil]
      exact hfeeds
  | cons operation rest ih =>
      obtain ⟨hfirst, hrest⟩ := List.forall_mem_cons.mp hserved
      have hafter := ih (hfeeds.perform hfirst) hrest
      rw [List.append_assoc, List.append_assoc] at hafter
      rw [handedOut, startedSizes, List.flatMap_cons]
      exact hafter

end Feeds

namespace Underway

variable (hunderway : Delivery.Underway number index delivery)

include hunderway

theorem set {after : Sink} {used reader' : Reader} {place : Nat}
    (hused : delivery.readers[place]? = some used)
    (hgone : delivery.sink.response.stream = none → after.response.stream = none)
    (hafter : used.Underway number delivery.sink → reader'.Underway number after) :
    Delivery.Underway number index
      { sink := after, readers := delivery.readers.set place reader' } := by
  obtain ⟨reader, hreader, hreads⟩ := hunderway
  by_cases hsame : place = index
  · subst hsame
    obtain rfl := Option.some.inj (hused.symm.trans hreader)
    have hlt := (List.getElem?_eq_some_iff.mp hused).1
    exact ⟨reader', by simp [hlt], hafter hreads⟩
  · refine ⟨reader, ?_, hreads.mono hgone⟩
    rw [List.getElem?_set_ne hsame]
    exact hreader

/-- A reader that came to read the stream goes on doing so, or it is over for good. -/
theorem perform (hfeeds : Delivery.Feeds number data handed sizes delivery)
    (hserved : operation.IsServed) :
    Delivery.Underway number index (delivery.perform operation).2 := by
  have hgone := (delivery.loosens_perform_of_isServed hserved).stream_eq_none
  cases operation with
  | startReader size =>
      obtain ⟨reader, hreader, hreads⟩ := hunderway
      have hlt := (List.getElem?_eq_some_iff.mp hreader).1
      exact ⟨reader, (List.getElem?_append_left hlt).trans hreader, hreads⟩
  | release =>
      obtain ⟨reader, hreader, hreads⟩ := hunderway
      exact ⟨reader, hreader, hreads.mono hgone⟩
  | advanceReader place =>
      rcases delivery.useReader_cases place Reader.advance with
        ⟨-, hrun⟩ | ⟨used, reader, hplace, hreader, -⟩
      · rw [Delivery.perform, Delivery.advance, hrun]
        exact hunderway
      · obtain ⟨size, -, hhas⟩ := hfeeds.readers used reader hreader
        rw [perform_advanceReader hplace hreader] at hgone ⊢
        exact hunderway.set hreader hgone fun hreads =>
          (Reader.moves_advance hfeeds.sink hhas).underway (.inr hreads)
  | stopReader place =>
      rcases delivery.useReader_cases place Reader.close with
        ⟨-, hrun⟩ | ⟨used, reader, hplace, hreader, -⟩
      · rw [Delivery.perform, Delivery.stop, hrun]
        exact hunderway
      · obtain ⟨size, -, hhas⟩ := hfeeds.readers used reader hreader
        obtain ⟨-, hover, hlets⟩ := Reader.feeds_close hfeeds.sink hhas
        rw [perform_stopReader hplace hreader] at hgone ⊢
        exact hunderway.set hreader hgone fun hreads => hover ▸ .finished (hlets hreads)
  | _ => exact hserved.elim

theorem performAll (hfeeds : Delivery.Feeds number data handed sizes delivery)
    {operations : List Operation} (hserved : ∀ operation ∈ operations, operation.IsServed) :
    Delivery.Underway number index (delivery.performAll operations) := by
  induction operations generalizing delivery handed sizes with
  | nil => exact hunderway
  | cons operation rest ih =>
      obtain ⟨hfirst, hrest⟩ := List.forall_mem_cons.mp hserved
      exact ih (hunderway.perform hfeeds hfirst) (hfeeds.perform hfirst) hrest

end Underway

end

/-! ## Runs -/

/-- The operation advances the reader in the place, and this is what comes of it. -/
structure Advances (delivery : Delivery) (operation : Operation) (index : Nat) (reader : Reader)
    (outcome : Except Fault (Option Bytes)) : Prop where
  exists_place : ∃ place, operation = .advanceReader place ∧ delivery.place place = some index
  reader_eq : delivery.readers[index]? = some reader
  outcome_eq : (delivery.perform operation).1 = outcome

/-- The reader in the place was first advanced while the response had its stream. -/
def Begun (start : Delivery) (operations : List Operation) (index : Nat) : Prop :=
  ∃ before operation size outcome, before ++ [operation] <+: operations ∧
    (start.performAll before).Advances operation index (.fresh size) outcome ∧
    (start.performAll before).sink.response.stream.isSome = true

/-- After the operation the reader in the place is over: it ended, failed or was stopped. -/
inductive Ends (delivery : Delivery) (operation : Operation) (index : Nat) : Prop
  | advanced {reader : Reader} {outcome : Except Fault (Option Bytes)}
      (hadvances : delivery.Advances operation index reader outcome)
      (hnone : ∀ chunk, outcome ≠ .ok (some chunk))
  | stopped {place : Int} (hstops : operation = .stopReader place)
      (hplace : delivery.place place = some index)

/-- The body of the response is a steady stream, and no reader was started yet. -/
structure Offers (number : Nat) (stream : Stream) (delivery : Delivery) : Prop where
  body : delivery.sink.response.body = []
  owned : delivery.sink.response.stream = some number
  stream_eq : delivery.sink.streams[number]? = some stream
  steady : stream.IsSteady
  readers : delivery.readers = []

/-- How the readers hand out the data of the stream in a run. -/
structure SharesOut (start : Delivery) (number : Nat) (data : Bytes)
    (operations : List Operation) : Prop where
  /-- All chunks, in the order in which they are handed out, are a beginning of the data. -/
  beginning : (start.handedOut operations).flatten <+: data
  /-- No chunk is empty, and none is longer than the size of its reader. -/
  chunk : ∀ before operation, before ++ [operation] <+: operations → ∀ index reader chunk,
    (start.performAll before).Advances operation index reader (.ok (some chunk)) →
    chunk ≠ [] ∧ ∃ size, (startedSizes before)[index]? = some size ∧ Stream.Fits size chunk
  /-- A reader that came to read the stream ends well only behind all of the data. -/
  complete : ∀ before operation, before ++ [operation] <+: operations → ∀ index reader,
    (start.performAll before).Advances operation index reader (.ok none) → reader ≠ .finished →
    start.Begun (before ++ [operation]) index → (start.handedOut before).flatten = data
  /-- Once such a reader is over, the stream is closed and let go for good. -/
  closed : ∀ before operation, before ++ [operation] <+: operations → ∀ index,
    (start.performAll before).Ends operation index → start.Begun (before ++ [operation]) index →
    ∀ later, before ++ [operation] <+: later → later <+: operations →
      (start.performAll later).sink.response.stream = none ∧
        ∃ stream, (start.performAll later).sink.streams[number]? = some stream ∧
          stream.isClosed = true

section

variable {start : Delivery} {number index : Nat} {data : Bytes} {stream : Stream}
  {operations : List Operation} {operation : Operation}

theorem Offers.feeds (hoffers : start.Offers number stream) :
    Delivery.Feeds number stream.rest [] [] start := by
  obtain ⟨hbody, howned, hstream, hsteady, hreaders⟩ := hoffers
  refine ⟨⟨hbody, fun other hother => ?_, stream, hstream, ?_, hsteady.closes, rfl⟩,
    by simp [hreaders], by simp [hreaders]⟩
  · exact Option.some.inj (hother.symm.trans howned)
  · exact iff_of_true howned hsteady.isOpen

theorem isServed_of_prefix (hserved : ∀ operation ∈ operations, operation.IsServed)
    {before : List Operation} (hinit : before <+: operations) :
    ∀ operation ∈ before, operation.IsServed :=
  fun operation hmem => hserved operation (hinit.subset hmem)

theorem mem_startedSizes {size : Int} :
    size ∈ startedSizes operations ↔ .startReader size ∈ operations := by
  rw [startedSizes, List.mem_flatMap]
  constructor
  · rintro ⟨operation, hmem, hstarted⟩
    cases operation with
    | startReader other =>
        obtain rfl := List.mem_singleton.mp hstarted
        exact hmem
    | _ => cases hstarted
  · exact fun hmem => ⟨_, hmem, List.mem_singleton.mpr rfl⟩

/-- A reader that is begun was so before, or the response has its stream now. -/
theorem Begun.of_concat {before : List Operation} {operation : Operation}
    (hbegun : start.Begun (before ++ [operation]) index) :
    start.Begun before index ∨ (start.performAll before).sink.response.stream.isSome = true := by
  obtain ⟨earlier, first, size, outcome, hinit, hadvances, hattached⟩ := hbegun
  rcases List.prefix_concat_iff.mp hinit with hsame | hearlier
  · obtain ⟨rfl, -⟩ := List.append_inj' hsame rfl
    exact .inr hattached
  · exact .inl ⟨earlier, first, size, outcome, hearlier, hadvances, hattached⟩

section

variable (hstart : Delivery.Feeds number data [] [] start)
  (hserved : ∀ operation ∈ operations, operation.IsServed)

include hstart hserved

theorem feeds_performAll : Delivery.Feeds number data (start.handedOut operations)
    (startedSizes operations) (start.performAll operations) :=
  hstart.performAll hserved

theorem Begun.underway (hbegun : start.Begun operations index) :
    Delivery.Underway number index (start.performAll operations) := by
  obtain ⟨before, operation, size, outcome, ⟨rest, rfl⟩, hadvances, hattached⟩ := hbegun
  obtain ⟨⟨place, rfl, hplace⟩, hreader, -⟩ := hadvances
  rw [List.forall_mem_append, List.forall_mem_append] at hserved
  obtain ⟨⟨hbefore, hfirst⟩, hrest⟩ := hserved
  have hfeeds := feeds_performAll hstart hbefore
  have hunderway : Delivery.Underway number index
      ((start.performAll before).perform (.advanceReader place)).2 := by
    obtain ⟨other, hother⟩ := Option.isSome_iff_exists.mp hattached
    obtain rfl := hfeeds.sink.owned other hother
    obtain ⟨_, -, hhas⟩ := hfeeds.readers index _ hreader
    have hmoves := Reader.moves_advance hfeeds.sink hhas
    have hlt := (List.getElem?_eq_some_iff.mp hreader).1
    cases hhas
    rw [perform_advanceReader hplace hreader]
    exact ⟨_, by simp [hlt], hmoves.underway (.inl (.inr ⟨rfl, hother⟩))⟩
  rw [performAll_append, performAll_append]
  exact hunderway.performAll (hfeeds.perform (hfirst _ (List.mem_singleton.mpr rfl))) hrest

theorem sharesOut_chunk {before : List Operation} {operation : Operation}
    (hinit : before ++ [operation] <+: operations) {reader : Reader} {chunk : Bytes}
    (hadvances : (start.performAll before).Advances operation index reader (.ok (some chunk))) :
    chunk ≠ [] ∧ ∃ size, (startedSizes before)[index]? = some size ∧ Stream.Fits size chunk := by
  have hbefore := isServed_of_prefix hserved ((List.prefix_append before _).trans hinit)
  have hfeeds := feeds_performAll hstart hbefore
  obtain ⟨⟨place, rfl, hplace⟩, hreader, houtcome⟩ := hadvances
  obtain ⟨size, hsize, hhas⟩ := hfeeds.readers index reader hreader
  have hmoves := Reader.moves_advance hfeeds.sink hhas
  rw [perform_advanceReader hplace hreader] at houtcome
  generalize reader.advance (start.performAll before).sink = run at hmoves houtcome
  cases hmoves with
  | chunk _ hne hfits =>
      cases houtcome
      exact ⟨hne, size, hsize, hfits⟩
  | _ => cases houtcome

theorem sharesOut_complete (hsizes : ∀ size, .startReader size ∈ operations → size ≠ 0)
    {before : List Operation} {operation : Operation}
    (hinit : before ++ [operation] <+: operations) {reader : Reader}
    (hadvances : (start.performAll before).Advances operation index reader (.ok none))
    (hgoing : reader ≠ .finished) (hbegun : start.Begun (before ++ [operation]) index) :
    (start.handedOut before).flatten = data := by
  have hsub := (List.prefix_append before _).trans hinit
  have hbefore := isServed_of_prefix hserved hsub
  have hfeeds := feeds_performAll hstart hbefore
  obtain ⟨⟨place, rfl, hplace⟩, hreader, houtcome⟩ := hadvances
  obtain ⟨size, hsize, hhas⟩ := hfeeds.readers index reader hreader
  have hmoves := Reader.moves_advance hfeeds.sink hhas
  rw [perform_advanceReader hplace hreader] at houtcome
  generalize reader.advance (start.performAll before).sink = run at hmoves houtcome
  cases hmoves with
  | ended _ hall =>
      refine hall (hsizes size (hsub.subset ?_))
      exact mem_startedSizes.mp (List.mem_of_getElem? hsize)
  | idle hidle hlate =>
      -- such a reader was not advanced before and finds no stream, so it never came to read one
      rcases hbegun.of_concat with hbegun | hattached
      · obtain ⟨other, hother, hunderway⟩ := hbegun.underway hstart hbefore
        obtain rfl := Option.some.inj (hreader.symm.trans hother)
        cases hunderway with
        | reading => exact hidle.elim
        | finished => exact absurd rfl hgoing
      · rw [hlate hgoing] at hattached
        cases hattached
  | _ => cases houtcome

theorem Ends.finished (hends : (start.performAll operations).Ends operation index) :
    ((start.performAll operations).perform operation).2.readers[index]? = some .finished := by
  have hfeeds := feeds_performAll hstart hserved
  cases hends with
  | @advanced reader _ hadvances hnone =>
      obtain ⟨⟨place, rfl, hplace⟩, hreader, houtcome⟩ := hadvances
      obtain ⟨size, -, hhas⟩ := hfeeds.readers index reader hreader
      have hmoves := Reader.moves_advance hfeeds.sink hhas
      have hlt := (List.getElem?_eq_some_iff.mp hreader).1
      rw [perform_advanceReader hplace hreader] at houtcome ⊢
      generalize reader.advance (start.performAll operations).sink = run at hmoves houtcome ⊢
      cases hmoves with
      | chunk => exact absurd houtcome.symm (hnone _)
      | _ => simp [hlt]
  | @stopped place hstops hplace =>
      subst hstops
      have hlt := place_lt hplace
      have hreader := List.getElem?_eq_getElem hlt
      obtain ⟨size, -, hhas⟩ := hfeeds.readers index _ hreader
      obtain ⟨-, hover, -⟩ := Reader.feeds_close hfeeds.sink hhas
      rw [perform_stopReader hplace hreader, hover]
      simp [hlt]

theorem sharesOut_closed {before later : List Operation}
    (hends : (start.performAll before).Ends operation index)
    (hbegun : start.Begun (before ++ [operation]) index) (hlater : before ++ [operation] <+: later)
    (hinit : later <+: operations) :
    (start.performAll later).sink.response.stream = none ∧
      ∃ stream, (start.performAll later).sink.streams[number]? = some stream ∧
        stream.isClosed = true := by
  have hserved' := isServed_of_prefix hserved hinit
  obtain ⟨rest, rfl⟩ := hlater
  obtain ⟨hends', hrest⟩ := List.forall_mem_append.mp hserved'
  have hgone : (start.performAll (before ++ [operation])).sink.response.stream = none := by
    obtain ⟨reader, hreader, hunderway⟩ := hbegun.underway hstart hends'
    have hover := hends.finished hstart (List.forall_mem_append.mp hends').1
    rw [performAll_append] at hreader hunderway ⊢
    obtain rfl := Option.some.inj (hover.symm.trans hreader)
    cases hunderway with
    | finished hgone => exact hgone
  have hlet : (start.performAll (before ++ [operation] ++ rest)).sink.response.stream = none := by
    rw [performAll_append]
    refine performAll_induction (·.sink.response.stream = none) ?_ hgone
    exact fun delivery next hmem =>
      (delivery.loosens_perform_of_isServed (hrest next hmem)).stream_eq_none
  exact ⟨hlet, (feeds_performAll hstart hserved').sink.isClosed hlet⟩

end

/-- What a single reader makes of the stream, advanced to its end: pieces of its size, the last of
which may be shorter, and a stream that is closed and let go. -/
structure CutsUp (sink : Sink) (number : Nat) (data : Bytes) (k : Nat) (pieces : List Bytes)
    (after : Sink) : Prop where
  flatten_eq : pieces.flatten = data
  length_eq : pieces.length = (data.length + k - 1) / k
  full : ∀ piece ∈ pieces.dropLast, piece.length = k
  bounds : ∀ piece ∈ pieces, 0 < piece.length ∧ piece.length ≤ k
  ends : Reader.EndsAt sink after number

/-- However many readers are started on a stream, and whenever they are advanced and stopped and the
response is released, the readers share out the data of the stream. A single one cuts it up. -/
theorem sharesOut_of_offers (hoffers : start.Offers number stream)
    (hserved : ∀ operation ∈ operations, operation.IsServed)
    (hsizes : ∀ size, .startReader size ∈ operations → size ≠ 0) :
    start.SharesOut number stream.rest operations ∧
      ∀ k : Nat, 0 < k → stream.source.sizeFault? k = none →
        ∃ pieces after, (Reader.fresh k).drain start.sink = (pieces, none, .finished, after) ∧
          CutsUp start.sink number stream.rest k pieces after := by
  have hstart := hoffers.feeds
  refine ⟨⟨?_, ?_, ?_, ?_⟩, fun k hpos hsize => ?_⟩
  · obtain ⟨rest, -, -, -, hdata⟩ := (feeds_performAll hstart hserved).sink.exists_stream
    exact ⟨_, hdata⟩
  · exact fun before operation hinit index reader chunk =>
      sharesOut_chunk hstart hserved hinit
  · exact fun before operation hinit index reader =>
      sharesOut_complete hstart hserved hsizes hinit
  · exact fun before operation _ index hends hbegun later =>
      sharesOut_closed hstart hserved hends hbegun
  · obtain ⟨pieces, after, hdrain, hcut, hends⟩ :=
      Reader.drain_of_steady hoffers.owned hoffers.stream_eq hoffers.steady hsize hpos (.inl rfl)
    refine ⟨pieces, after, hdrain, hcut.flatten_eq, hcut.length_eq hpos,
      hcut.length_of_mem_dropLast, fun piece hmem => ⟨?_, hcut.length_le piece hmem⟩, hends⟩
    exact List.length_pos_iff.mpr (hcut.ne_nil hpos piece hmem)

end

/-- The second reader takes what the first one left and comes to the end. The first one does not end
well then, as the stream was closed under it. -/
theorem sharesOut_of_offers_two_readers :
    let stream : Stream := { rest := [1, 2, 3, 4, 5] }
    let start : Delivery :=
      { sink := { response := { stream := some 0, committed := true }, streams := [stream] } }
    let operations : List Operation :=
      [.startReader 2, .startReader (-1), .advanceReader 0, .advanceReader 1, .advanceReader 1]
    start.Offers 0 stream ∧ start.handedOut operations = [[1, 2], [3, 4, 5]] ∧
      ((start.performAll operations).perform (.advanceReader 0)).1.isOk = false ∧
      start.SharesOut 0 stream.rest operations ∧
      ∃ pieces after, (Reader.fresh 2).drain start.sink = (pieces, none, .finished, after) ∧
        CutsUp start.sink 0 stream.rest 2 pieces after := by
  intro stream start operations
  have hoffers : start.Offers 0 stream := ⟨rfl, rfl, rfl, ⟨rfl, rfl, rfl⟩, rfl⟩
  have hserved : ∀ operation ∈ operations, operation.IsServed := by
    simp [operations, Operation.IsServed]
  obtain ⟨hshares, hcuts⟩ :=
    sharesOut_of_offers hoffers hserved (by simp [operations])
  exact ⟨hoffers, by decide, by decide, hshares, hcuts 2 (by decide) rfl⟩

end Delivery

end VersionedAssets
