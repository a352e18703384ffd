import VersionedAssets.Proofs.Response.Operations

/-! # What a response keeps

A response keeps a stream if it has it as long as it is open, and not any longer. Releasing a
response, committing it and attaching another stream keep all streams. A reader that is done with a
stream closes it and then lets go of whatever stream the response has by then, and it lets go of
none if closing fails: those are the two ways to mislay a stream.
-/

namespace VersionedAssets

open Actions

namespace Stream

variable {stream : Stream}

theorem close_fst_of_isClosed (hclosed : stream.isClosed = true) : stream.close.1 = .ok () := by
  simp [close, hclosed]

theorem exists_read_snd (stream : Stream) (size : Int) :
    ∃ rest reads, (stream.read size).2 = { stream with rest, reads } := by
  unfold read
  dsimp only
  split
  · exact ⟨_, _, rfl⟩
  · split
    · exact ⟨_, _, rfl⟩
    · split <;> exact ⟨_, _, rfl⟩

/-- Reading does not change what closing comes to. -/
theorem close_fst_read (stream : Stream) (size : Int) :
    (stream.read size).2.close.1 = stream.close.1 := by
  obtain ⟨rest, reads, hread⟩ := stream.exists_read_snd size
  rw [hread]
  unfold close
  split <;> rfl

end Stream

namespace Sink

/-- The response has the stream as long as it is open, and not any longer. -/
def Keeps (sink : Sink) (number : Nat) : Prop :=
  ∃ stream, sink.streams[number]? = some stream ∧
    (sink.response.stream = some number ↔ stream.isClosed = false)

/-- A reader that is done with the stream mislays one: another one that the response has, which is
let go open, or the one that it read, which fails to close and is kept. -/
inductive Mislays (sink : Sink) (number : Nat) : Prop
  | other {owned : Nat} (howned : sink.response.stream = some owned) (hne : owned ≠ number)
  | refusing {stream : Stream} {fault : Fault} (howned : sink.response.stream = some number)
      (hstream : sink.streams[number]? = some stream) (hclose : stream.close.1 = .error fault)

/-- There is no further chunk in the stream: it is at its end, or reading it fails. -/
def IsDone (sink : Sink) (number : Nat) (size : Int) : Prop :=
  ∃ stream, sink.streams[number]? = some stream ∧
    ∀ chunk, (stream.read size).1 = .ok chunk → chunk = []

section

variable {sink : Sink} {number : Nat} {stream : Stream} {numbers : List Nat}

/-! ## What closing and reading come to -/

theorem finish_of_closes (hstream : sink.streams[number]? = some stream)
    (hclose : stream.close.1 = .ok ()) :
    finish number sink = (.ok (), sink.freed number stream) := by
  rw [finish, bind_apply, closeStream_of_some hstream, hclose]
  rfl

theorem finish_of_refuses {fault : Fault} (hstream : sink.streams[number]? = some stream)
    (hclose : stream.close.1 = .error fault) :
    finish number sink =
      (.error fault, { sink with streams := sink.streams.set number stream.closed }) := by
  rw [finish, bind_apply, closeStream_of_some hstream, hclose]

/-- The sink after a chunk of a stream was read. -/
def readFrom (sink : Sink) (number : Nat) (stream : Stream) (size : Int) : Sink :=
  { sink with streams := sink.streams.set number (stream.read size).2 }

theorem pull_of_chunk {size : Int} {chunk : Bytes} (hstream : sink.streams[number]? = some stream)
    (hread : (stream.read size).1 = .ok chunk) (hne : chunk ≠ []) :
    pull number size sink = (.ok (some chunk), sink.readFrom number stream size) := by
  rw [pull, bind_apply, tryCatch_apply, useStream_of_some hstream]
  simp only [hread]
  simp [hne, readFrom]

/-- A reader that finds no further chunk is done with the stream. -/
theorem pull_of_done {size : Int} (hstream : sink.streams[number]? = some stream)
    (hdone : ∀ chunk, (stream.read size).1 = .ok chunk → chunk = []) :
    (pull number size sink).2 = (finish number (sink.readFrom number stream size)).2 := by
  rw [pull, bind_apply, tryCatch_apply, useStream_of_some hstream]
  cases hread : (stream.read size).1 with
  | error fault =>
      dsimp only
      rw [bind_apply, readFrom]
      rcases finish number _ with ⟨_ | _, after⟩ <;> rfl
  | ok chunk =>
      obtain rfl := hdone chunk hread
      exact bind_snd_of_inert _ (fun _ _ => rfl) _

/-! ## What is kept -/

theorem Keeps.lt {sink : Sink} {number : Nat} (hkeeps : sink.Keeps number) :
    number < sink.streams.length := by
  obtain ⟨stream, hstream, -⟩ := hkeeps
  exact (List.getElem?_eq_some_iff.mp hstream).1

/-- What the response has let go is closed. -/
theorem Keeps.isClosed (hkeeps : sink.Keeps number) (hstream : sink.streams[number]? = some stream)
    (hdetached : sink.response.stream ≠ some number) : stream.isClosed = true := by
  obtain ⟨kept, hkept, hopen⟩ := hkeeps
  obtain rfl := Option.some.inj (hkept.symm.trans hstream)
  rw [← Bool.not_eq_false, ← hopen]
  exact hdetached

theorem keeps_freed {other : Nat} (hstream : sink.streams[number]? = some stream)
    (howned : ∀ owned, sink.response.stream = some owned → owned = number)
    (hkeeps : sink.Keeps other) : (sink.freed number stream).Keeps other := by
  by_cases hother : other = number
  · subst hother
    have hlt := hkeeps.lt
    exact ⟨stream.closed, by simp [freed, hlt], by simp [freed, Stream.closed]⟩
  · obtain ⟨kept, hkept, -⟩ := id hkeeps
    have hclosed := hkeeps.isClosed hkept fun hsame => hother (howned _ hsame)
    refine ⟨kept, ?_, by simp [freed, hclosed]⟩
    rw [freed, List.getElem?_set_ne (Ne.symm hother)]
    exact hkept

theorem keeps_readFrom_iff (hstream : sink.streams[number]? = some stream) (size : Int)
    (other : Nat) : (sink.readFrom number stream size).Keeps other ↔ sink.Keeps other := by
  by_cases hother : other = number
  · subst hother
    obtain ⟨hlt, rfl⟩ := List.getElem?_eq_some_iff.mp hstream
    simp [Keeps, readFrom, hlt, Stream.read_snd_isClosed]
  · simp [Keeps, readFrom, List.getElem?_set_ne (Ne.symm hother)]

theorem mislays_readFrom_iff (hstream : sink.streams[number]? = some stream) (size : Int) :
    (sink.readFrom number stream size).Mislays number ↔ sink.Mislays number := by
  have hlt := (List.getElem?_eq_some_iff.mp hstream).1
  have hread : (sink.readFrom number stream size).streams[number]? =
      some (stream.read size).2 := by simp [readFrom, hlt]
  constructor
  · rintro (⟨howned, hne⟩ | ⟨howned, hother, hclose⟩)
    · exact .other howned hne
    · obtain rfl := Option.some.inj (hread.symm.trans hother)
      rw [Stream.close_fst_read] at hclose
      exact .refusing howned hstream hclose
  · rintro (⟨howned, hne⟩ | ⟨howned, hother, hclose⟩)
    · exact .other howned hne
    · obtain rfl := Option.some.inj (hstream.symm.trans hother)
      rw [← Stream.close_fst_read] at hclose
      exact .refusing howned hread hclose

/-- Being done with one of the streams keeps them all unless one is mislaid. -/
theorem keeps_finish_iff (hkeeps : ∀ number ∈ numbers, sink.Keeps number)
    (howned : ∀ owned, sink.response.stream = some owned → owned ∈ numbers)
    (hmem : number ∈ numbers) :
    (∀ other ∈ numbers, (finish number sink).2.Keeps other) ↔ ¬ sink.Mislays number := by
  obtain ⟨stream, hstream, hopen⟩ := hkeeps number hmem
  constructor
  · intro hafter hmislays
    cases hmislays with
    | @other owned hattached hne =>
        -- the stream that was read is closed already, and the one that is let go is open
        have hclosed : stream.isClosed = true :=
          (hkeeps number hmem).isClosed hstream fun hsame =>
            hne (Option.some.inj (hattached.symm.trans hsame))
        rw [finish_of_closes hstream (Stream.close_fst_of_isClosed hclosed)] at hafter
        obtain ⟨kept, hkept, hkeptOpen⟩ := hkeeps owned (howned owned hattached)
        have hfreed : (sink.freed number stream).streams[owned]? = some kept := by
          rw [freed, List.getElem?_set_ne (Ne.symm hne)]
          exact hkept
        have hnow := (hafter owned (howned owned hattached)).isClosed hfreed (by simp [freed])
        rw [hkeptOpen.mp hattached] at hnow
        cases hnow
    | @refusing refused fault hattached hrefused hclose =>
        obtain rfl := Option.some.inj (hstream.symm.trans hrefused)
        rw [finish_of_refuses hstream hclose] at hafter
        obtain ⟨kept, hkept, hkeptOpen⟩ := hafter number hmem
        have hlt := (hkeeps number hmem).lt
        have hclosed : kept = stream.closed := by simpa [hlt] using hkept.symm
        rw [hclosed] at hkeptOpen
        cases hkeptOpen.mp hattached
  · intro hnot other hother
    cases hclose : stream.close.1 with
    | ok _ =>
        rw [finish_of_closes hstream hclose]
        refine keeps_freed hstream (fun owned hattached => ?_) (hkeeps other hother)
        by_cases hsame : owned = number
        · exact hsame
        · exact absurd (.other hattached hsame) hnot
    | error fault =>
        -- what fails to close is open, so the response has it
        have hisOpen : stream.isClosed = false := by
          rw [← Bool.not_eq_true]
          intro hclosed
          rw [Stream.close_fst_of_isClosed hclosed] at hclose
          cases hclose
        exact absurd (.refusing (hopen.mpr hisOpen) hstream hclose) hnot

/-- A reader keeps all streams unless it is done with its stream and mislays one. -/
theorem keeps_pull_iff (hkeeps : ∀ number ∈ numbers, sink.Keeps number)
    (howned : ∀ owned, sink.response.stream = some owned → owned ∈ numbers)
    (hmem : number ∈ numbers) (size : Int) :
    (∀ other ∈ numbers, (pull number size sink).2.Keeps other) ↔
      ¬ (sink.IsDone number size ∧ sink.Mislays number) := by
  obtain ⟨stream, hstream, -⟩ := hkeeps number hmem
  have hread := keeps_readFrom_iff hstream size
  by_cases hdone : ∀ chunk, (stream.read size).1 = .ok chunk → chunk = []
  · have hisDone : sink.IsDone number size := ⟨stream, hstream, hdone⟩
    rw [pull_of_done hstream hdone, and_iff_right hisDone, ← mislays_readFrom_iff hstream size]
    exact keeps_finish_iff (fun other hother => (hread other).mpr (hkeeps other hother)) howned hmem
  · have hnot : ¬ sink.IsDone number size := by
      rintro ⟨other, hother, hends⟩
      obtain rfl := Option.some.inj (hstream.symm.trans hother)
      exact hdone hends
    obtain ⟨chunk, hmore⟩ := Classical.not_forall.mp hdone
    obtain ⟨hchunk, hne⟩ := Classical.not_imp.mp hmore
    rw [pull_of_chunk hstream hchunk hne]
    simpa [hnot, hread] using hkeeps

/-- Whatever comes of closing it, a released stream is closed. -/
theorem keeps_release (hkeeps : ∀ number ∈ numbers, sink.Keeps number)
    (howned : ∀ owned, sink.response.stream = some owned → owned ∈ numbers) :
    ∀ number ∈ numbers, (release sink).2.Keeps number := by
  cases hattached : sink.response.stream with
  | none =>
      rw [release_of_no_stream hattached]
      exact hkeeps
  | some owned =>
      obtain ⟨stream, hstream, -⟩ := hkeeps owned (howned owned hattached)
      rw [release_of_owned hattached hstream]
      intro number hnumber
      refine keeps_freed hstream (fun other hother => ?_) (hkeeps number hnumber)
      exact Option.some.inj (hother.symm.trans hattached)

/-- A release leaves the other streams as they are. -/
theorem getElem?_release (hkeeps : ∀ owned, sink.response.stream = some owned → sink.Keeps owned)
    (hother : sink.response.stream ≠ some number) :
    (release sink).2.streams[number]? = sink.streams[number]? := by
  cases hattached : sink.response.stream with
  | none => rw [release_of_no_stream hattached]
  | some owned =>
      obtain ⟨stream, hstream, -⟩ := hkeeps owned hattached
      rw [release_of_owned hattached hstream]
      refine List.getElem?_set_ne ?_
      rintro rfl
      exact hother hattached

/-- The sinks have the same streams, and their responses own the same one. -/
structure SameStreams (sink other : Sink) : Prop where
  streams_eq : sink.streams = other.streams
  owned_eq : sink.response.stream = other.response.stream

theorem SameStreams.keeps_iff {other : Sink} (hsame : sink.SameStreams other) :
    sink.Keeps number ↔ other.Keeps number := by
  rw [Keeps, Keeps, hsame.streams_eq, hsame.owned_eq]

theorem Rewrites.sameStreams {other : Sink} (hrewrites : sink.Rewrites other) :
    other.SameStreams sink := by
  obtain ⟨_, _, _, rfl⟩ := hrewrites
  exact ⟨rfl, rfl⟩

/-- A commit releases the stream or leaves it. -/
theorem commit_sameStreams (sink : Sink) :
    (commit sink).2.SameStreams sink ∨ (commit sink).2.SameStreams (release sink).2 := by
  cases hstage : sink.response.committed with
  | true =>
      rw [commit_of_committed hstage]
      exact .inl ⟨rfl, rfl⟩
  | false =>
      cases hbody : sink.response.status.allowsBody with
      | true =>
          rw [commit_of_open hstage (.inr hbody)]
          exact .inl ⟨rfl, rfl⟩
      | false =>
          rw [commit_of_bodiless hstage hbody]
          rcases release sink with ⟨_ | _, after⟩
          · exact .inr ⟨rfl, rfl⟩
          · exact .inr ⟨rfl, rfl⟩

theorem Keeps.adding (hkeeps : sink.Keeps number) (stream : Stream) :
    (sink.adding stream).Keeps number := by
  have hlt := hkeeps.lt
  obtain ⟨kept, hkept, hopen⟩ := hkeeps
  refine ⟨kept, ?_, hopen⟩
  rw [Sink.adding, List.getElem?_append_left hlt]
  exact hkept

section Takes

variable {after : Sink} (hkeeps : ∀ number ∈ numbers, sink.Keeps number)
  (howned : ∀ owned, sink.response.stream = some owned → owned ∈ numbers)

include hkeeps howned

/-- A response that does not take a stream keeps those before. -/
theorem keeps_of_not_taken {fault : Fault}
    (htakes : (sink.adding stream).Takes sink.streams.length (.error fault, after)) :
    ∀ number ∈ numbers, after.Keeps number := by
  have hadded (number : Nat) (hmem : number ∈ numbers) : (sink.adding stream).Keeps number :=
    (hkeeps number hmem).adding stream
  cases htakes with
  | refused => exact hadded
  | stuck => exact keeps_release hadded howned

/-- A response that takes a stream keeps it and those before, unless it is closed already. -/
theorem keeps_taken_iff
    (htakes : (sink.adding stream).Takes sink.streams.length (.ok (), after)) :
    (∀ number ∈ numbers ++ [sink.streams.length], after.Keeps number) ↔
      stream.isClosed = false := by
  have hadded (number : Nat) (hmem : number ∈ numbers) : (sink.adding stream).Keeps number :=
    (hkeeps number hmem).adding stream
  cases htakes with
  | taken headers filename =>
      have hnew : (release (sink.adding stream)).2.streams[sink.streams.length]? = some stream := by
        rw [getElem?_release]
        · simp [adding]
        · exact fun owned hattached => hadded owned (howned owned hattached)
        · intro hattached
          exact Nat.lt_irrefl _ (hkeeps _ (howned _ hattached)).lt
      rw [List.forall_mem_append, List.forall_mem_singleton]
      constructor
      · rintro ⟨-, kept, hkept, hopen⟩
        obtain rfl := Option.some.inj (hnew.symm.trans hkept)
        exact hopen.mp rfl
      · intro hisOpen
        refine ⟨fun number hmem => ?_, stream, hnew, iff_of_true rfl hisOpen⟩
        -- the streams before are closed when they are let go, and are not the new one
        have hreleased := keeps_release hadded howned
        have hnone : (release (sink.adding stream)).2.response.stream = none := by
          rw [release_response]
        obtain ⟨kept, hkept, -⟩ := id (hreleased number hmem)
        have hclosed := (hreleased number hmem).isClosed hkept (by simp [hnone])
        refine ⟨kept, hkept, iff_of_false ?_ (by simp [hclosed])⟩
        intro hattached
        exact Nat.ne_of_gt (hkeeps number hmem).lt (Option.some.inj hattached)

end Takes

end

end Sink

/-! ## Readers -/

namespace Reader

open Sink

/-- Advancing the reader reads the stream. -/
def Reads (reader : Reader) (sink : Sink) (number : Nat) (size : Int) : Prop :=
  reader = .reading number size ∨ reader = .fresh size ∧ sink.response.stream = some number

variable {reader : Reader} {sink : Sink} {number : Nat} {size : Int}

theorem advance_of_reads (hreads : reader.Reads sink number size) :
    reader.advance sink = advanceStream number size sink := by
  rcases hreads with rfl | ⟨rfl, howned⟩
  · rfl
  · simp only [advance, howned]

/-- A reader that reads no stream changes nothing and goes on without one. -/
theorem advance_of_not_reads (hreads : ∀ number size, ¬ reader.Reads sink number size) :
    (reader.advance sink).2.2 = sink ∧
      ∀ number size, (reader.advance sink).2.1 ≠ .reading number size := by
  cases reader with
  | fresh size =>
      cases howned : sink.response.stream with
      | some number => exact absurd (.inr ⟨rfl, howned⟩) (hreads number size)
      | none =>
          simp only [advance, howned]
          split
          · exact ⟨rfl, fun _ _ => Reader.noConfusion⟩
          · exact ⟨rfl, fun _ _ => Reader.noConfusion⟩
  | reading number size => exact absurd (.inl rfl) (hreads number size)
  | spent => exact ⟨rfl, fun _ _ => Reader.noConfusion⟩
  | finished => exact ⟨rfl, fun _ _ => Reader.noConfusion⟩

theorem Reads.unique {other : Nat} {otherSize : Int} (hreads : reader.Reads sink number size)
    (hother : reader.Reads sink other otherSize) : number = other ∧ size = otherSize := by
  rcases hreads with rfl | ⟨rfl, howned⟩
  · rcases hother with hsame | ⟨hsame, -⟩
    · cases hsame
      exact ⟨rfl, rfl⟩
    · cases hsame
  · rcases hother with hsame | ⟨hsame, howned'⟩
    · cases hsame
    · cases hsame
      exact ⟨Option.some.inj (howned.symm.trans howned'), rfl⟩

theorem advanceStream_reading {other : Nat} {otherSize : Int}
    (hreading : (advanceStream number size sink).2.1 = .reading other otherSize) :
    other = number := by
  unfold advanceStream at hreading
  split at hreading
  next => exact (Reader.reading.inj hreading).1.symm
  next => cases hreading

section Keeps

variable {numbers : List Nat} (hkeeps : ∀ number ∈ numbers, sink.Keeps number)
  (howned : ∀ owned, sink.response.stream = some owned → owned ∈ numbers)
  (hreading : ∀ number size, reader = .reading number size → number ∈ numbers)

include hkeeps howned hreading

theorem keeps_close_iff :
    (∀ number ∈ numbers, (reader.close sink).2.2.Keeps number) ↔
      ∀ number size, reader = .reading number size → ¬ sink.Mislays number := by
  cases reader with
  | reading number size =>
      have hmem := hreading number size rfl
      refine (keeps_finish_iff hkeeps howned hmem).trans ⟨fun hnot other otherSize hsame => ?_, ?_⟩
      · cases hsame
        exact hnot
      · exact fun hnot => hnot number size rfl
  | _ => exact iff_of_true hkeeps nofun

theorem keeps_advance_iff :
    (∀ number ∈ numbers, (reader.advance sink).2.2.Keeps number) ↔
      ∀ number size, reader.Reads sink number size →
        ¬ (sink.IsDone number size ∧ sink.Mislays number) := by
  by_cases hreads : ∃ number size, reader.Reads sink number size
  · obtain ⟨number, size, hreads⟩ := hreads
    have hmem : number ∈ numbers := by
      rcases id hreads with rfl | ⟨-, hattached⟩
      · exact hreading number size rfl
      · exact howned number hattached
    rw [advance_of_reads hreads, advanceStream_snd, keeps_pull_iff hkeeps howned hmem]
    constructor
    · intro hnot other otherSize hother
      obtain ⟨rfl, rfl⟩ := hreads.unique hother
      exact hnot
    · intro hnot
      exact hnot number size hreads
  · have hnone (number : Nat) (size : Int) : ¬ reader.Reads sink number size :=
      fun hreads' => hreads ⟨number, size, hreads'⟩
    rw [(advance_of_not_reads hnone).1]
    exact iff_of_true hkeeps fun number size hreads' => absurd hreads' (hnone number size)

end Keeps

end Reader

end VersionedAssets
