import VersionedAssets.Proofs.Response.Keeping

/-! # Reading a body to its end

A reader that is advanced until it ends cuts what is left of a stream into pieces of its size, of
which the last one may be shorter. Nothing is lost between two pieces, and at the end the stream is
closed and the response has let it go.
-/

namespace VersionedAssets

open Actions

/-! ## Pieces -/

/-- The data is cut into pieces of `k` bytes; the last one has what is left. -/
inductive CutInto (k : Nat) : Bytes → List Bytes → Prop
  | nil : CutInto k [] []
  | cons {data : Bytes} {pieces : List Bytes} (hne : data ≠ [])
      (hrest : CutInto k (data.drop k) pieces) : CutInto k data (data.take k :: pieces)

namespace CutInto

variable {k : Nat} {data : Bytes} {pieces : List Bytes}

theorem flatten_eq (hcut : CutInto k data pieces) : pieces.flatten = data := by
  induction hcut with
  | nil => rfl
  | cons _ _ ih => rw [List.flatten_cons, ih, List.take_append_drop]

theorem length_le (hcut : CutInto k data pieces) : ∀ piece ∈ pieces, piece.length ≤ k := by
  induction hcut with
  | nil => simp
  | cons _ _ ih => exact List.forall_mem_cons.mpr ⟨List.length_take_le _ _, ih⟩

theorem ne_nil (hcut : CutInto k data pieces) (hk : 0 < k) : ∀ piece ∈ pieces, piece ≠ [] := by
  induction hcut with
  | nil => simp
  | cons hne _ ih => exact List.forall_mem_cons.mpr ⟨by simp [hne, Nat.pos_iff_ne_zero.mp hk], ih⟩

/-- The number of pieces is the length of the data over that of a piece, rounded up. -/
theorem length_eq (hcut : CutInto k data pieces) (hk : 0 < k) :
    pieces.length = (data.length + k - 1) / k := by
  induction hcut with
  | nil => exact (Nat.div_eq_of_lt (by rw [List.length_nil]; omega)).symm
  | @cons data pieces hne _ ih =>
      have hpos := List.length_pos_iff.mpr hne
      rw [List.length_cons, ih, List.length_drop]
      rcases Nat.lt_or_ge k data.length with hlong | hshort
      · rw [← Nat.add_div_right _ hk]
        congr 1
        omega
      · rw [Nat.div_eq_of_lt (by omega)]
        exact (Nat.div_eq_of_lt_le (by omega) (by omega)).symm

/-- A piece that another one follows has full length. -/
theorem length_of_mem_dropLast (hcut : CutInto k data pieces) :
    ∀ piece ∈ pieces.dropLast, piece.length = k := by
  induction hcut with
  | nil => simp
  | @cons data pieces _ hrest ih =>
      generalize hdrop : data.drop k = rest at hrest
      cases hrest with
      | nil => simp
      | cons hmore _ =>
          refine List.forall_mem_cons.mpr ⟨?_, ih⟩
          rw [← hdrop, ne_eq, List.drop_eq_nil_iff, Nat.not_le] at hmore
          exact List.length_take_of_le (Nat.le_of_lt hmore)

end CutInto

/-! ## Streams -/

namespace Stream

/-- The stream is open, and neither reading nor closing it fails. -/
structure IsSteady (stream : Stream) : Prop where
  isOpen : stream.isClosed = false
  reads : stream.failingReads = []
  closes : stream.failsToClose = false

/-- How many bytes a read of a size asks for, of what is left. -/
def portion (size : Int) (rest : Bytes) : Nat := if size < 0 then rest.length else size.toNat

variable {stream : Stream} {size : Int}

theorem take_portion {k : Nat} {rest : Bytes}
    (hk : size = k ∨ size < 0 ∧ rest.length ≤ k) :
    rest.take (portion size rest) = rest.take k ∧ rest.drop (portion size rest) = rest.drop k := by
  unfold portion
  rcases hk with rfl | ⟨hneg, hle⟩
  · rw [if_neg (by omega), Int.toNat_natCast]
    exact ⟨rfl, rfl⟩
  · rw [if_pos hneg, List.take_length, List.drop_length, List.take_of_length_le hle,
      List.drop_eq_nil_of_le hle]
    exact ⟨rfl, rfl⟩

theorem close_fst_of_closes (hcloses : stream.failsToClose = false) : stream.close.1 = .ok () := by
  unfold close
  split
  · rfl
  · simp [hcloses]

/-- A read fails and leaves what is left, or the stream is open and gives a portion of it. -/
theorem read_outcome (stream : Stream) (size : Int) :
    (∃ fault, (stream.read size).1 = .error fault ∧ (stream.read size).2.rest = stream.rest) ∨
      stream.isClosed = false ∧
        (stream.read size).1 = .ok (stream.rest.take (portion size stream.rest)) ∧
        (stream.read size).2.rest = stream.rest.drop (portion size stream.rest) := by
  unfold read
  dsimp only
  split
  · exact .inl ⟨_, rfl, rfl⟩
  · split
    · exact .inl ⟨_, rfl, rfl⟩
    · split
      next => exact .inl ⟨_, rfl, rfl⟩
      next hopen => exact .inr ⟨by simpa using hopen, rfl, rfl⟩

/-- A steady stream gives every portion that its source can give. -/
theorem IsSteady.read_fst (hsteady : stream.IsSteady)
    (hsize : stream.source.sizeFault? size = none) :
    (stream.read size).1 = .ok (stream.rest.take (portion size stream.rest)) := by
  simp [read, hsteady.reads, hsize, hsteady.isOpen, portion]

theorem IsSteady.read_snd (hsteady : stream.IsSteady)
    (hsize : stream.source.sizeFault? size = none) :
    (stream.read size).2.IsSteady ∧ (stream.read size).2.source = stream.source ∧
      (stream.read size).2.rest = stream.rest.drop (portion size stream.rest) := by
  have hread : (stream.read size).2 =
      { stream with
        reads := stream.reads + 1, rest := stream.rest.drop (portion size stream.rest) } := by
    simp [read, hsteady.reads, hsize, hsteady.isOpen, portion]
  rw [hread]
  exact ⟨⟨hsteady.isOpen, hsteady.reads, hsteady.closes⟩, rfl, rfl⟩

end Stream

/-! ## Sinks -/

namespace Sink

variable {sink : Sink} {number : Nat} {stream : Stream} {size : Int}

/-- The sink after a read that found no further chunk, when closing the stream does not fail. -/
def readOut (sink : Sink) (number : Nat) (stream : Stream) (size : Int) : Sink :=
  sink.freed number (stream.read size).2

theorem freed_readFrom (sink : Sink) (number : Nat) (stream after : Stream) (size : Int) :
    (sink.readFrom number stream size).freed number after = sink.freed number after := by
  simp [freed, readFrom]

section

variable (hstream : sink.streams[number]? = some stream) (hcloses : stream.failsToClose = false)

include hstream hcloses

theorem finish_readFrom (size : Int) :
    finish number (sink.readFrom number stream size) = (.ok (), sink.readOut number stream size) := by
  have hlt := (List.getElem?_eq_some_iff.mp hstream).1
  have hread : (sink.readFrom number stream size).streams[number]? =
      some (stream.read size).2 := by simp [readFrom, hlt]
  rw [finish_of_closes hread, freed_readFrom, readOut]
  rw [Stream.close_fst_read]
  exact Stream.close_fst_of_closes hcloses

theorem pull_of_end (hread : (stream.read size).1 = .ok []) :
    pull number size sink = (.ok none, sink.readOut number stream size) := by
  rw [pull, bind_apply, tryCatch_apply, useStream_of_some hstream]
  simp only [hread]
  exact bind_of_ok (finish_readFrom hstream hcloses size)

theorem pull_of_fault {fault : Fault} (hread : (stream.read size).1 = .error fault) :
    pull number size sink = (.error fault, sink.readOut number stream size) := by
  rw [pull, bind_apply, tryCatch_apply, useStream_of_some hstream]
  simp only [hread]
  have hfinish := finish_readFrom hstream hcloses size
  rw [readFrom] at hfinish
  rw [bind_of_ok hfinish]
  rfl

end

end Sink

/-! ## Readers -/

namespace Reader

open Sink

variable {sink : Sink} {number : Nat} {stream : Stream} {size : Int}

/-- The stream of the response is closed and let go; the others are as they were. -/
def EndsAt (sink after : Sink) (number : Nat) : Prop :=
  ∃ last : Stream, last.isClosed = true ∧
    after = { response := { sink.response with stream := none }
              streams := sink.streams.set number last }

/-- Advanced until it ends, a reader of a steady stream cuts what is left of it into pieces. A
negative size asks for all of it at once. -/
theorem take_of_steady {k : Nat} (count : Nat) (hstream : sink.streams[number]? = some stream)
    (hsteady : stream.IsSteady) (hsize : stream.source.sizeFault? size = none)
    (hpos : 0 < k) (hk : size = k ∨ size < 0 ∧ stream.rest.length ≤ k)
    (hcount : stream.rest.length < count) :
    ∃ pieces after, (reading number size).take sink count = (pieces, none, .finished, after) ∧
      CutInto k stream.rest pieces ∧ EndsAt sink after number := by
  induction count generalizing sink stream with
  | zero => omega
  | succ count ih =>
      have hread := hsteady.read_fst hsize
      obtain ⟨hsteady', hsource, hrest⟩ := hsteady.read_snd hsize
      rw [(Stream.take_portion hk).1] at hread
      rw [(Stream.take_portion hk).2] at hrest
      by_cases hend : stream.rest = []
      · rw [hend, List.take_nil] at hread
        have hpull := pull_of_end hstream hsteady.closes hread
        refine ⟨[], sink.readOut number stream size, ?_, hend ▸ .nil, _, rfl, rfl⟩
        simp [take, advance, advanceStream, hpull]
      · have hne : stream.rest.take k ≠ [] := by
          rw [ne_eq, List.take_eq_nil_iff, not_or]
          exact ⟨Nat.pos_iff_ne_zero.mp hpos, hend⟩
        have hpull := pull_of_chunk hstream hread hne
        have hlt := (List.getElem?_eq_some_iff.mp hstream).1
        have hstream' : (sink.readFrom number stream size).streams[number]? =
            some (stream.read size).2 := by simp [readFrom, hlt]
        have hsome := List.length_pos_iff.mpr hend
        have hlength := congrArg List.length hrest
        rw [List.length_drop] at hlength
        obtain ⟨pieces, after, htake, hcut, last, hclosed, hafter⟩ :=
          ih hstream' hsteady' (hsource ▸ hsize) (by omega) (by omega)
        rw [hrest] at hcut
        refine ⟨_, after, ?_, .cons hend hcut, last, hclosed, ?_⟩
        · simp [take, advance, advanceStream, hpull, htake]
        · simpa [readFrom] using hafter

theorem two_le_enough (sink : Sink) : 2 ≤ enough sink := by
  unfold enough
  induction sink.streams with
  | nil => exact Nat.le_refl 2
  | cons stream rest ih => exact Nat.le_trans ih (Nat.le_add_left _ _)

/-- A body of bytes comes as one chunk, unless it is empty. -/
theorem drain_of_no_stream (hnone : sink.response.stream = none) (size : Int) :
    (fresh size).drain sink =
      (if sink.response.body.isEmpty then [] else [sink.response.body], none, .finished, sink) := by
  obtain ⟨count, hcount⟩ := Nat.exists_eq_add_of_le (two_le_enough sink)
  rw [drain, hcount, Nat.add_comm 2 count]
  cases hbody : sink.response.body.isEmpty with
  | true => simp [take, advance, hnone, hbody]
  | false => simp [take, advance, hnone, hbody]

theorem length_lt_enough (hstream : sink.streams[number]? = some stream) :
    stream.rest.length + 1 < enough sink := by
  have hmem := List.mem_of_getElem? hstream
  unfold enough
  generalize sink.streams = streams at hmem
  induction streams with
  | nil => cases hmem
  | cons first rest ih =>
      rw [List.foldr_cons]
      rcases List.mem_cons.mp hmem with rfl | hrest
      · have htwo : 2 ≤ rest.foldr (fun stream count => stream.rest.length + count) 2 :=
          two_le_enough { streams := rest }
        omega
      · have := ih hrest
        omega

/-- A reader that comes to an end of its own has closed the stream of the response. -/
theorem drain_of_steady {k : Nat} (howned : sink.response.stream = some number)
    (hstream : sink.streams[number]? = some stream) (hsteady : stream.IsSteady)
    (hsize : stream.source.sizeFault? size = none)
    (hpos : 0 < k) (hk : size = k ∨ size < 0 ∧ stream.rest.length ≤ k) :
    ∃ pieces after, (fresh size).drain sink = (pieces, none, .finished, after) ∧
      CutInto k stream.rest pieces ∧ EndsAt sink after number := by
  have henough := length_lt_enough hstream
  have hsame : (fresh size).drain sink = (reading number size).take sink (enough sink) := by
    unfold drain
    obtain ⟨count, hcount⟩ := Nat.exists_eq_add_of_lt henough
    rw [hcount]
    simp only [take, advance, howned]
  rw [hsame]
  exact take_of_steady _ hstream hsteady hsize hpos hk (by omega)

end Reader

end VersionedAssets
