import VersionedAssets.Proofs.Actions
import VersionedAssets.Response.Delivery

/-! # The stream of a delivery

A server that delivers a response may start readers, advance and stop them, and release the
response, in any order. All of this touches at most the one stream that the response owns, and a
response that has no stream any more has closed it. So after a release the stream is closed, however
many readers were left behind.
-/

namespace VersionedAssets

open Actions

namespace Stream

/-- The stream after it was closed. -/
def closed (stream : Stream) : Stream := { stream with isClosed := true }

theorem close_snd (stream : Stream) : stream.close.2 = stream.closed := by
  unfold close
  split
  next hclosed =>
    rw [closed, ← hclosed]
  next => rfl

theorem read_snd_isClosed (stream : Stream) (size : Int) :
    (stream.read size).2.isClosed = stream.isClosed := by
  unfold read
  dsimp only
  split
  · rfl
  · split
    · rfl
    · split <;> rfl

/-- A property of streams that neither reading nor closing takes away. -/
structure Persists (p : Stream → Prop) : Prop where
  read : ∀ stream size, p stream → p (stream.read size).2
  close : ∀ stream, p stream → p stream.closed

theorem persists_true : Persists fun _ => True := ⟨fun _ _ => id, fun _ => id⟩

theorem Persists.and_isClosed {p : Stream → Prop} (hp : Persists p) :
    Persists fun stream => p stream ∧ stream.isClosed = true := by
  refine ⟨fun stream size hstream => ⟨hp.read _ _ hstream.1, ?_⟩,
    fun stream hstream => ⟨hp.close _ hstream.1, rfl⟩⟩
  rw [read_snd_isClosed]
  exact hstream.2

end Stream

namespace Sink

/-- After the streams of `front` there are `count` streams, at most one. They have the property, the
response can own no other stream, and if it owns none they are closed. -/
structure Holds (front : List Stream) (count : Nat) (p : Stream → Prop) (sink : Sink) : Prop where
  count_le : count ≤ 1
  exists_held : ∃ held, sink.streams = front ++ held ∧ held.length = count ∧
    (∀ stream ∈ held, p stream) ∧
    (sink.response.stream = none → ∀ stream ∈ held, stream.isClosed = true)
  owned : ∀ number, sink.response.stream = some number → number = front.length

/-- As before, and the stream is closed. -/
def HoldsClosed (front : List Stream) (count : Nat) (p : Stream → Prop) : Sink → Prop :=
  Holds front count fun stream => p stream ∧ stream.isClosed = true

variable {front : List Stream} {count : Nat} {p q : Stream → Prop} {sink : Sink}

theorem HoldsClosed.holds (hclosed : HoldsClosed front count p sink) :
    Holds front count p sink := by
  obtain ⟨hcount, ⟨held, hstreams, hlength, hheld, hnone⟩, howned⟩ := hclosed
  exact ⟨hcount, ⟨held, hstreams, hlength, fun stream hstream => (hheld stream hstream).1, hnone⟩,
    howned⟩

/-- Using the stream of the response changes that stream only. -/
theorem useStream_eq {α : Type} {held : List Stream} (hheld : held.length ≤ 1)
    (use : Stream → Except Fault α × Stream) (missing : α) (response : Response) :
    ∃ outcome, useStream front.length use missing { response, streams := front ++ held } =
      (outcome, { response, streams := front ++ held.map fun stream => (use stream).2 }) := by
  rcases held with _ | ⟨stream, _ | ⟨_, _⟩⟩
  · exact ⟨_, by simp [useStream]; rfl⟩
  · exact ⟨_, by simp [useStream]; rfl⟩
  · simp at hheld

theorem leads_useStream {α : Type} {use : Stream → Except Fault α × Stream}
    (huse : ∀ stream, p stream → q (use stream).2)
    (hclosed : ∀ stream, stream.isClosed = true → (use stream).2.isClosed = true) (missing : α) :
    Leads (Holds front count p) (Holds front count q) (useStream front.length use missing) := by
  rintro ⟨response, streams⟩ ⟨hcount, ⟨held, hstreams, hlength, hheld, hnone⟩, howned⟩
  obtain rfl : streams = front ++ held := hstreams
  obtain ⟨outcome, hrun⟩ := useStream_eq (hlength ▸ hcount) use missing response
  rw [hrun]
  refine ⟨hcount, ⟨_, rfl, by simpa using hlength, ?_, fun hresponse => ?_⟩, howned⟩
  · simpa using fun stream hstream => huse stream (hheld stream hstream)
  · simpa using fun stream hstream => hclosed stream (hnone hresponse stream hstream)

/-- A stream that was closed may be let go. -/
theorem leads_detach : Leads (HoldsClosed front count p) (HoldsClosed front count p) detach := by
  rintro sink ⟨hcount, ⟨held, hstreams, hlength, hheld, -⟩, -⟩
  exact ⟨hcount, ⟨held, hstreams, hlength, hheld, fun _ stream hstream => (hheld stream hstream).2⟩,
    fun number howned => nomatch howned⟩

section Persists

variable (hp : Stream.Persists p)

include hp

theorem leads_closeStream :
    Leads (Holds front count p) (HoldsClosed front count p) (closeStream front.length) := by
  refine leads_useStream (fun stream hstream => ?_) (fun stream _ => ?_) ()
  · rw [Stream.close_snd]
    exact ⟨hp.close stream hstream, rfl⟩
  · rw [Stream.close_snd]
    rfl

theorem leads_finish :
    Leads (Holds front count p) (HoldsClosed front count p) (finish front.length) :=
  (leads_closeStream hp).bind fun _ => leads_detach

/-- Whatever comes of closing it, a released response has closed its stream. -/
theorem leads_release : Leads (Holds front count p) (HoldsClosed front count p) release := by
  intro sink hholds
  rw [release, bind_of_ok (get_apply sink)]
  cases hstream : sink.response.stream with
  | none =>
      -- a response without a stream has nothing left to close
      obtain ⟨hcount, ⟨held, hstreams, hlength, hheld, hnone⟩, howned⟩ := hholds
      have hboth := fun stream hmem => And.intro (hheld stream hmem) (hnone hstream stream hmem)
      exact ⟨hcount, ⟨held, hstreams, hlength, hboth, hnone⟩, howned⟩
  | some number =>
      -- when closing fails, the stream is closed nevertheless, and let go before the fault goes on
      obtain rfl := hholds.owned number hstream
      have hclose : Leads (Holds front count p) (HoldsClosed front count p)
          (closeStream front.length) := leads_closeStream hp
      have hrecover (fault : Fault) : Leads (HoldsClosed front count p) (HoldsClosed front count p)
          (do detach; throw fault : Writing Unit) := leads_detach.bind fun _ => leads_throw fault
      exact ((hclose.tryCatch hrecover).bind fun _ => leads_detach) sink hholds

theorem leads_pull (size : Int) :
    Leads (Holds front count p) (Holds front count p) (pull front.length size) := by
  have hfinish : Leads (Holds front count p) (Holds front count p) (finish front.length) :=
    fun sink hholds => HoldsClosed.holds (leads_finish hp sink hholds)
  have hread : Leads (Holds front count p) (Holds front count p)
      (useStream front.length (·.read size) []) :=
    leads_useStream (fun stream => hp.read stream size)
      (fun stream => (Stream.read_snd_isClosed stream size).trans) []
  refine (hread.tryCatch fun fault => hfinish.bind fun _ => leads_throw fault).bind fun chunk => ?_
  split
  · exact hfinish.bind fun _ => leads_pure _
  · exact leads_pure _

end Persists

end Sink

/-! ## Readers -/

namespace Reader

/-- The reader is between two chunks of no other stream than the one with the number. -/
def Uses (number : Nat) (reader : Reader) : Prop :=
  ∀ other size, reader = .reading other size → other = number

theorem uses_finished (number : Nat) : finished.Uses number := fun _ _ heq => nomatch heq

variable {front : List Stream} {count : Nat} {p : Stream → Prop} {sink : Sink} {reader : Reader}

theorem holds_advanceStream (hp : Stream.Persists p) (size : Int)
    (hholds : sink.Holds front count p) :
    (advanceStream front.length size sink).2.2.Holds front count p ∧
      (advanceStream front.length size sink).2.1.Uses front.length := by
  have hpull := Sink.leads_pull hp size sink hholds
  unfold advanceStream
  split
  next hrun =>
    rw [hrun] at hpull
    refine ⟨hpull, fun other size' heq => ?_⟩
    cases heq
    rfl
  next hrun =>
    rw [hrun] at hpull
    exact ⟨hpull, uses_finished _⟩

/-- Advancing a reader touches the stream of the response only. -/
theorem holds_advance (hp : Stream.Persists p) (huses : reader.Uses front.length)
    (hholds : sink.Holds front count p) :
    (reader.advance sink).2.2.Holds front count p ∧
      (reader.advance sink).2.1.Uses front.length := by
  cases reader with
  | fresh size =>
      unfold advance
      dsimp only
      split
      next number hstream =>
        obtain rfl := hholds.owned number hstream
        exact holds_advanceStream hp size hholds
      next =>
        split
        · exact ⟨hholds, uses_finished _⟩
        · exact ⟨hholds, fun _ _ heq => nomatch heq⟩
  | reading number size =>
      obtain rfl := huses number size rfl
      exact holds_advanceStream hp size hholds
  | spent => exact ⟨hholds, uses_finished _⟩
  | finished => exact ⟨hholds, uses_finished _⟩

theorem holds_close (hp : Stream.Persists p) (huses : reader.Uses front.length)
    (hholds : sink.Holds front count p) :
    (reader.close sink).2.2.Holds front count p ∧ (reader.close sink).2.1.Uses front.length := by
  cases reader with
  | reading number size =>
      obtain rfl := huses number size rfl
      exact ⟨(Sink.leads_finish hp sink hholds).holds, uses_finished _⟩
  | fresh _ => exact ⟨hholds, uses_finished _⟩
  | spent => exact ⟨hholds, uses_finished _⟩
  | finished => exact ⟨hholds, uses_finished _⟩

end Reader

/-! ## Deliveries -/

namespace Delivery

theorem place_lt {delivery : Delivery} {number : Int} {index : Nat}
    (hplace : delivery.place number = some index) : index < delivery.readers.length := by
  simp only [place, Option.ite_none_right_eq_some, Option.some.injEq] at hplace
  obtain ⟨⟨hlow, hhigh⟩, rfl⟩ := hplace
  omega

/-- A reader is used in its place, or there is none. -/
theorem useReader_cases {α : Type} (delivery : Delivery) (number : Int)
    (use : Reader → Sink → Except Fault α × Reader × Sink) :
    delivery.place number = none ∧ delivery.useReader number use = (.error .index, delivery) ∨
      ∃ index reader, delivery.place number = some index ∧
        delivery.readers[index]? = some reader ∧
        delivery.useReader number use =
          ((use reader delivery.sink).1,
            { sink := (use reader delivery.sink).2.2
              readers := delivery.readers.set index (use reader delivery.sink).2.1 }) := by
  cases hplace : delivery.place number with
  | none => exact .inl ⟨rfl, by simp [useReader, hplace]⟩
  | some index =>
      obtain ⟨reader, hreader⟩ : ∃ reader, delivery.readers[index]? = some reader :=
        ⟨_, List.getElem?_eq_getElem (place_lt hplace)⟩
      refine .inr ⟨index, reader, rfl, hreader, ?_⟩
      simp [useReader, hplace, List.getD_eq_getElem?_getD, hreader]

/-- What each operation of a run preserves, the run preserves. -/
theorem performAll_induction (P : Delivery → Prop) {operations : List Operation}
    (hstep : ∀ delivery, ∀ operation ∈ operations, P delivery → P (delivery.perform operation).2)
    {delivery : Delivery} (hstart : P delivery) : P (delivery.performAll operations) := by
  induction operations generalizing delivery with
  | nil => exact hstart
  | cons operation rest ih =>
      refine ih (fun delivery next hnext => ?_) (hstep delivery operation List.mem_cons_self hstart)
      exact hstep delivery next (List.mem_cons_of_mem _ hnext)

/-- The response is held, and the readers are between chunks of no other stream than its own. -/
structure Holds (front : List Stream) (count : Nat) (p : Stream → Prop) (delivery : Delivery) :
    Prop where
  sink : delivery.sink.Holds front count p
  readers : ∀ reader ∈ delivery.readers, reader.Uses front.length

/-- What a server does with a body: it starts, advances and stops readers, and releases the
response. -/
def Operation.IsServed : Operation → Prop
  | .startReader _ | .advanceReader _ | .stopReader _ | .release => True
  | _ => False

variable {front : List Stream} {count : Nat} {p : Stream → Prop} {delivery : Delivery}

theorem Holds.useReader {α : Type} (hholds : delivery.Holds front count p) (number : Int)
    {use : Reader → Sink → Except Fault α × Reader × Sink}
    (huse : ∀ reader sink, reader.Uses front.length → sink.Holds front count p →
      (use reader sink).2.2.Holds front count p ∧ (use reader sink).2.1.Uses front.length) :
    (delivery.useReader number use).2.Holds front count p := by
  rcases delivery.useReader_cases number use with ⟨-, hrun⟩ | ⟨index, reader, -, hreader, hrun⟩
  · rwa [hrun]
  · have huses := hholds.readers reader (List.mem_of_getElem? hreader)
    obtain ⟨hsink, hafter⟩ := huse reader delivery.sink huses hholds.sink
    rw [hrun]
    refine ⟨hsink, fun other hother => ?_⟩
    rcases List.mem_or_eq_of_mem_set hother with hmem | rfl
    · exact hholds.readers other hmem
    · exact hafter

/-- A step of a server keeps the response held. -/
theorem Holds.perform (hp : Stream.Persists p) (hholds : delivery.Holds front count p)
    {operation : Operation} (hserved : operation.IsServed) :
    (delivery.perform operation).2.Holds front count p := by
  cases operation with
  | release => exact ⟨(Sink.leads_release hp _ hholds.sink).holds, hholds.readers⟩
  | startReader size =>
      refine ⟨hholds.sink, fun reader hreader => ?_⟩
      rcases List.mem_append.mp hreader with hmem | hmem
      · exact hholds.readers reader hmem
      · rw [List.mem_singleton.mp hmem]
        exact fun _ _ heq => nomatch heq
  | advanceReader number =>
      exact hholds.useReader number fun _ _ huses hsink => Reader.holds_advance hp huses hsink
  | stopReader number =>
      exact hholds.useReader number fun _ _ huses hsink => Reader.holds_close hp huses hsink
  | _ => exact hserved.elim

/-- A run of a server keeps the response held. -/
theorem Holds.performAll (hp : Stream.Persists p) (hholds : delivery.Holds front count p)
    {operations : List Operation} (hserved : ∀ operation ∈ operations, operation.IsServed) :
    (delivery.performAll operations).Holds front count p := by
  refine performAll_induction _ (fun delivery operation hmem hholds => ?_) hholds
  exact hholds.perform hp (hserved operation hmem)

theorem performAll_append (delivery : Delivery) (before after : List Operation) :
    delivery.performAll (before ++ after) =
      (delivery.performAll before).performAll after := List.foldl_append

/-- Once the server has released the response, its stream is closed for good. -/
theorem Holds.performAll_release (hp : Stream.Persists p) (hholds : delivery.Holds front count p)
    {operations : List Operation} (hserved : ∀ operation ∈ operations, operation.IsServed)
    (hrelease : .release ∈ operations) :
    (delivery.performAll operations).Holds front count
      fun stream => p stream ∧ stream.isClosed = true := by
  -- up to the release the stream is only held; from there on it is closed as well
  obtain ⟨before, after, rfl⟩ := List.append_of_mem hrelease
  rw [List.forall_mem_append] at hserved
  have hbefore := hholds.performAll hp hserved.1
  have hreleased : ((delivery.performAll before).perform .release).2.Holds front count
      fun stream => p stream ∧ stream.isClosed = true :=
    ⟨Sink.leads_release hp _ hbefore.sink, hbefore.readers⟩
  rw [performAll_append]
  exact hreleased.performAll hp.and_isClosed (List.forall_mem_cons.mp hserved.2).2

end Delivery

end VersionedAssets
