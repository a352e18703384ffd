import VersionedAssets.Proofs.Response.Keeping

/-! # Who closes a stream

A response closes the streams that were handed to it and lets them go, each at the same moment,
unless a reader mislays one. So in a run of operations every stream is kept if and only if no
operation strands one, and there are runs in which one is dropped open or kept closed.
-/

namespace VersionedAssets

namespace Delivery

open Sink

/-! ## When a stream is stranded -/

/-- The operation makes a reader be done with a stream: it stops the reader between two chunks, or
it advances the reader and there is no further chunk. -/
inductive Finishes (delivery : Delivery) : Operation → Nat → Prop
  | stopped {place : Int} {index number : Nat} {size : Int}
      (hplace : delivery.place place = some index)
      (hreader : delivery.readers[index]? = some (.reading number size)) :
      Finishes delivery (.stopReader place) number
  | ended {place : Int} {index number : Nat} {reader : Reader} {size : Int}
      (hplace : delivery.place place = some index)
      (hreader : delivery.readers[index]? = some reader)
      (hreads : reader.Reads delivery.sink number size)
      (hdone : delivery.sink.IsDone number size) :
      Finishes delivery (.advanceReader place) number

/-- The operation hands a stream over, and the response takes it. -/
def Accepts (delivery : Delivery) (operation : Operation) : Prop :=
  operation.given?.isSome = true ∧ (delivery.perform operation).1.isOk = true

instance (delivery : Delivery) (operation : Operation) : Decidable (delivery.Accepts operation) :=
  inferInstanceAs (Decidable (_ ∧ _))

/-- The operation breaks the bond between the response and its stream: a reader that is done with
its stream mislays one, or the stream that is taken is closed already. -/
inductive Strands (delivery : Delivery) (operation : Operation) : Prop
  | mislaid {number : Nat} (hfinishes : delivery.Finishes operation number)
      (hmislays : delivery.sink.Mislays number)
  | closed {stream : Stream} (haccepts : delivery.Accepts operation)
      (hgiven : operation.given? = some stream) (hclosed : stream.isClosed = true)

/-- The number of the stream that the response takes, if it takes one. -/
def accepted (delivery : Delivery) (operation : Operation) : List Nat :=
  if delivery.Accepts operation then [delivery.sink.streams.length] else []

/-- The numbers of the streams that the response took in a run. -/
def acceptedBy (delivery : Delivery) : List Operation → List Nat
  | [] => []
  | operation :: rest =>
    delivery.accepted operation ++ (delivery.perform operation).2.acceptedBy rest

/-- The response and the readers have no other streams than those with the numbers. -/
structure Tracks (numbers : List Nat) (delivery : Delivery) : Prop where
  owned : ∀ number, delivery.sink.response.stream = some number → number ∈ numbers
  readers : ∀ number size, .reading number size ∈ delivery.readers → number ∈ numbers

section

variable {delivery : Delivery} {numbers : List Nat} {operation : Operation} {number : Nat}

theorem Finishes.given?_eq (hfinishes : delivery.Finishes operation number) :
    operation.given? = none := by
  cases hfinishes <;> rfl

/-! ## Which streams are in use -/

/-- A response that has a stream had it before or has just taken it. -/
theorem owned_perform (delivery : Delivery) (operation : Operation)
    (howned : (delivery.perform operation).2.sink.response.stream = some number) :
    delivery.sink.response.stream = some number ∨ number ∈ delivery.accepted operation := by
  rcases operation.kinds with hplain | ⟨stream, hgiven⟩ | rfl | hserved
  · rw [((delivery.rewrites_perform hplain).1.sameStreams).owned_eq] at howned
    exact .inl howned
  · obtain ⟨run, htakes, hperform⟩ := delivery.perform_of_given hgiven
    rw [hperform] at howned
    cases htakes with
    | refused fault => exact .inl howned
    | stuck fault =>
        dsimp only at howned
        rw [release_response] at howned
        cases howned
    | taken headers filename =>
        have haccepts : delivery.Accepts operation := by
          rw [Accepts, hgiven, hperform]
          exact ⟨rfl, rfl⟩
        obtain rfl := Option.some.inj howned
        rw [accepted, if_pos haccepts]
        exact .inr (List.mem_singleton.mpr rfl)
  · replace howned : (commit delivery.sink).2.response.stream = some number := howned
    rcases commit_sameStreams delivery.sink with hsame | hsame
    · rw [hsame.owned_eq] at howned
      exact .inl howned
    · rw [hsame.owned_eq, release_response] at howned
      cases howned
  · rcases delivery.loosens_perform_of_isServed hserved with hsame | hgone
    · rw [hsame] at howned
      exact .inl howned
    · rw [hgone] at howned
      cases howned

/-- A reader between two chunks of a stream was there before or has just read the stream. -/
theorem reading_perform (delivery : Delivery) (operation : Operation) {size : Int}
    (hreading : .reading number size ∈ (delivery.perform operation).2.readers) :
    (∃ size, .reading number size ∈ delivery.readers) ∨
      delivery.sink.response.stream = some number := by
  cases operation with
  | startReader started =>
      rcases List.mem_append.mp hreading with hmem | hmem
      · exact .inl ⟨size, hmem⟩
      · cases List.mem_singleton.mp hmem
  | advanceReader place =>
      replace hreading : .reading number size ∈
          (delivery.useReader place Reader.advance).2.readers := hreading
      rcases delivery.useReader_cases place Reader.advance with
        ⟨-, hrun⟩ | ⟨index, reader, -, hreader, hrun⟩
      · rw [hrun] at hreading
        exact .inl ⟨size, hreading⟩
      · rw [hrun] at hreading
        rcases List.mem_or_eq_of_mem_set hreading with hmem | hadvanced
        · exact .inl ⟨size, hmem⟩
        · by_cases hreads : ∃ other size, reader.Reads delivery.sink other size
          · obtain ⟨other, otherSize, hreads⟩ := hreads
            rw [Reader.advance_of_reads hreads] at hadvanced
            obtain rfl := Reader.advanceStream_reading hadvanced.symm
            rcases hreads with rfl | ⟨-, howned⟩
            · exact .inl ⟨otherSize, List.mem_of_getElem? hreader⟩
            · exact .inr howned
          · have hnone := Reader.advance_of_not_reads fun other size hreads' =>
              hreads ⟨other, size, hreads'⟩
            exact absurd hadvanced.symm (hnone.2 number size)
  | stopReader place =>
      replace hreading : .reading number size ∈
          (delivery.useReader place Reader.close).2.readers := hreading
      rcases delivery.useReader_cases place Reader.close with
        ⟨-, hrun⟩ | ⟨index, reader, -, hreader, hrun⟩
      · rw [hrun] at hreading
        exact .inl ⟨size, hreading⟩
      · rw [hrun] at hreading
        rcases List.mem_or_eq_of_mem_set hreading with hmem | hclosed
        · exact .inl ⟨size, hmem⟩
        · have hidle := reader.close_isIdle delivery.sink
          rw [← hclosed] at hidle
          exact hidle.elim
  | _ => exact .inl ⟨size, hreading⟩

theorem Tracks.perform (htracks : delivery.Tracks numbers) (operation : Operation) :
    (delivery.perform operation).2.Tracks (numbers ++ delivery.accepted operation) := by
  constructor
  · intro number howned
    rcases delivery.owned_perform operation howned with hbefore | hmem
    · exact List.mem_append_left _ (htracks.owned number hbefore)
    · exact List.mem_append_right _ hmem
  · intro number size hreading
    rcases delivery.reading_perform operation hreading with ⟨_, hmem⟩ | howned
    · exact List.mem_append_left _ (htracks.readers number _ hmem)
    · exact List.mem_append_left _ (htracks.owned number howned)

/-! ## What one operation keeps -/

theorem not_accepts_of_none (hgiven : operation.given? = none) : ¬ delivery.Accepts operation := by
  rintro ⟨hsome, -⟩
  rw [hgiven] at hsome
  cases hsome

theorem strands_iff_of_given {stream : Stream} (hgiven : operation.given? = some stream) :
    delivery.Strands operation ↔ delivery.Accepts operation ∧ stream.isClosed = true := by
  constructor
  · rintro (⟨hfinishes, -⟩ | ⟨haccepts, hother, hclosed⟩)
    · cases hgiven.symm.trans hfinishes.given?_eq
    · obtain rfl := Option.some.inj (hgiven.symm.trans hother)
      exact ⟨haccepts, hclosed⟩
  · rintro ⟨haccepts, hclosed⟩
    exact .closed haccepts hgiven hclosed

theorem strands_iff_of_none (hgiven : operation.given? = none) :
    delivery.Strands operation ↔
      ∃ number, delivery.Finishes operation number ∧ delivery.sink.Mislays number := by
  constructor
  · rintro (⟨hfinishes, hmislays⟩ | ⟨haccepts, -, -⟩)
    · exact ⟨_, hfinishes, hmislays⟩
    · exact absurd haccepts (not_accepts_of_none hgiven)
  · rintro ⟨number, hfinishes, hmislays⟩
    exact .mislaid hfinishes hmislays

section Keeps

variable (htracks : delivery.Tracks numbers)
  (hkeeps : ∀ number ∈ numbers, delivery.sink.Keeps number)

include htracks hkeeps

theorem keeps_perform_iff_of_given {stream : Stream} (hgiven : operation.given? = some stream) :
    (∀ number ∈ numbers ++ delivery.accepted operation,
      (delivery.perform operation).2.sink.Keeps number) ↔ ¬ delivery.Strands operation := by
  rw [strands_iff_of_given hgiven, accepted]
  obtain ⟨⟨outcome, after⟩, htakes, hperform⟩ := delivery.perform_of_given hgiven
  cases outcome with
  | error fault =>
      have hrefused : ¬ delivery.Accepts operation := by
        rintro ⟨-, hok⟩
        rw [hperform] at hok
        cases hok
      rw [if_neg hrefused, List.append_nil, hperform]
      refine iff_of_true (keeps_of_not_taken hkeeps htracks.owned htakes) ?_
      exact fun hboth => hrefused hboth.1
  | ok _ =>
      have haccepts : delivery.Accepts operation := by
        rw [Accepts, hgiven, hperform]
        exact ⟨rfl, rfl⟩
      rw [if_pos haccepts, hperform, and_iff_right haccepts, Bool.not_eq_true]
      exact keeps_taken_iff hkeeps htracks.owned htakes

/-- A use of the reader in a place keeps all streams if and only if it is safe for the reader that
is there, if one is. -/
theorem keeps_useReader_iff {α : Type} {use : Reader → Sink → Except Fault α × Reader × Sink}
    {Safe : Reader → Prop} (place : Int)
    (huse : ∀ reader, (∀ number size, reader = .reading number size → number ∈ numbers) →
      ((∀ number ∈ numbers, (use reader delivery.sink).2.2.Keeps number) ↔ Safe reader)) :
    (∀ number ∈ numbers, (delivery.useReader place use).2.sink.Keeps number) ↔
      ∀ index reader, delivery.place place = some index →
        delivery.readers[index]? = some reader → Safe reader := by
  rcases delivery.useReader_cases place use with
    ⟨hnone, hrun⟩ | ⟨index, reader, hplace, hreader, hrun⟩
  · rw [hrun]
    refine iff_of_true hkeeps fun index reader hplace => ?_
    cases hnone.symm.trans hplace
  · rw [hrun, huse reader fun number size heq =>
      htracks.readers number size (heq ▸ List.mem_of_getElem? hreader)]
    constructor
    · intro hsafe index' reader' hplace' hreader'
      obtain rfl := Option.some.inj (hplace.symm.trans hplace')
      obtain rfl := Option.some.inj (hreader.symm.trans hreader')
      exact hsafe
    · intro hsafe
      exact hsafe index reader hplace hreader

theorem keeps_stop_iff (place : Int) :
    (∀ number ∈ numbers, (delivery.perform (.stopReader place)).2.sink.Keeps number) ↔
      ¬ ∃ number, delivery.Finishes (.stopReader place) number ∧ delivery.sink.Mislays number := by
  refine (keeps_useReader_iff htracks hkeeps place fun reader hreading =>
    Reader.keeps_close_iff hkeeps htracks.owned hreading).trans ?_
  constructor
  · rintro hsafe ⟨number, hfinishes, hmislays⟩
    cases hfinishes with
    | stopped hplace hreader => exact hsafe _ _ hplace hreader _ _ rfl hmislays
  · rintro hnot index _ hplace hreader number size rfl hmislays
    exact hnot ⟨number, .stopped hplace hreader, hmislays⟩

theorem keeps_advance_iff (place : Int) :
    (∀ number ∈ numbers, (delivery.perform (.advanceReader place)).2.sink.Keeps number) ↔
      ¬ ∃ number, delivery.Finishes (.advanceReader place) number ∧
        delivery.sink.Mislays number := by
  refine (keeps_useReader_iff htracks hkeeps place fun reader hreading =>
    Reader.keeps_advance_iff hkeeps htracks.owned hreading).trans ?_
  constructor
  · rintro hsafe ⟨number, hfinishes, hmislays⟩
    cases hfinishes with
    | ended hplace hreader hreads hdone =>
        exact hsafe _ _ hplace hreader _ _ hreads ⟨hdone, hmislays⟩
  · rintro hnot index reader hplace hreader number size hreads ⟨hdone, hmislays⟩
    exact hnot ⟨number, .ended hplace hreader hreads hdone, hmislays⟩

/-- One operation keeps all streams, the one that it hands over included, unless it strands one. -/
theorem keeps_perform_iff (operation : Operation) :
    (∀ number ∈ numbers ++ delivery.accepted operation,
      (delivery.perform operation).2.sink.Keeps number) ↔ ¬ delivery.Strands operation := by
  cases hgiven : operation.given? with
  | some stream => exact keeps_perform_iff_of_given htracks hkeeps hgiven
  | none =>
      have hnone : ¬ delivery.Accepts operation := not_accepts_of_none hgiven
      rw [accepted, if_neg hnone, List.append_nil, strands_iff_of_none hgiven]
      rcases operation.kinds with hplain | ⟨stream, hsome⟩ | rfl | hserved
      · have hsame := (delivery.rewrites_perform hplain).1.sameStreams
        refine iff_of_true (fun number hmem => hsame.keeps_iff.mpr (hkeeps number hmem)) ?_
        rintro ⟨number, hfinishes, -⟩
        cases hfinishes <;> exact hplain.elim
      · cases hgiven.symm.trans hsome
      · have hreleased := keeps_release hkeeps htracks.owned
        refine iff_of_true (fun number hmem => ?_) nofun
        rcases commit_sameStreams delivery.sink with hsame | hsame
        · exact hsame.keeps_iff.mpr (hkeeps number hmem)
        · exact hsame.keeps_iff.mpr (hreleased number hmem)
      · cases operation with
        | release => exact iff_of_true (keeps_release hkeeps htracks.owned) nofun
        | startReader size => exact iff_of_true hkeeps nofun
        | advanceReader place => exact keeps_advance_iff htracks hkeeps place
        | stopReader place => exact keeps_stop_iff htracks hkeeps place
        | _ => exact hserved.elim

end Keeps

/-! ## Runs -/

theorem keeps_performAll_iff (htracks : delivery.Tracks numbers)
    (hkeeps : ∀ number ∈ numbers, delivery.sink.Keeps number) (operations : List Operation) :
    (∀ before, before <+: operations → ∀ number ∈ numbers ++ delivery.acceptedBy before,
        (delivery.performAll before).sink.Keeps number) ↔
      ∀ before operation, before ++ [operation] <+: operations →
        ¬ (delivery.performAll before).Strands operation := by
  induction operations generalizing delivery numbers with
  | nil =>
      refine iff_of_true (fun before hprefix => ?_) (fun before operation hprefix => ?_)
      · obtain rfl := List.prefix_nil.mp hprefix
        rw [acceptedBy, List.append_nil]
        exact hkeeps
      · simp at hprefix
  | cons operation rest ih =>
      have hstep := keeps_perform_iff htracks hkeeps operation
      have hrest (hkept) := (ih (htracks.perform operation) hkept)
      simp only [List.append_assoc] at hrest
      constructor
      · intro hall before next hprefix
        have hkept : ∀ number ∈ numbers ++ delivery.accepted operation,
            (delivery.perform operation).2.sink.Keeps number := by
          have hfirst := hall [operation] (List.prefix_append [operation] rest)
          rwa [acceptedBy, acceptedBy, List.append_nil] at hfirst
        cases before with
        | nil =>
            obtain ⟨rfl, -⟩ := List.cons_prefix_cons.mp hprefix
            exact hstep.mp hkept
        | cons first before =>
            obtain ⟨rfl, hbefore⟩ := List.cons_prefix_cons.mp hprefix
            refine (hrest hkept).mp (fun begun hbegun => ?_) before next hbefore
            exact hall (first :: begun) (List.cons_prefix_cons.mpr ⟨rfl, hbegun⟩)
      · intro hnot before hprefix
        have hkept := hstep.mpr (hnot [] operation (List.prefix_append [operation] rest))
        cases before with
        | nil =>
            rw [acceptedBy, List.append_nil]
            exact hkeeps
        | cons first before =>
            obtain ⟨rfl, hbefore⟩ := List.cons_prefix_cons.mp hprefix
            refine (hrest hkept).mpr (fun begun next hbegun => ?_) before hbefore
            exact hnot (first :: begun) next (List.cons_prefix_cons.mpr ⟨rfl, hbegun⟩)

end

/-- At every point of the run, each stream that the response took before is its stream and open, or
is let go and closed. -/
def KeepsOwnership (operations : List Operation) : Prop :=
  ∀ before, before <+: operations →
    ∀ number ∈ acceptedBy {} before, (performAll {} before).sink.Keeps number

/-- The response keeps its streams in exactly those runs in which no operation strands one. -/
theorem keepsOwnership_iff (operations : List Operation) :
    KeepsOwnership operations ↔ ∀ before operation, before ++ [operation] <+: operations →
      ¬ (performAll {} before).Strands operation := by
  have htracks : Tracks [] {} := ⟨nofun, nofun⟩
  exact keeps_performAll_iff htracks nofun operations

/-- A stream that was attached while a reader was between two chunks of the one before is dropped
open when the reader is stopped, and a stream that fails to close then is kept closed. -/
theorem not_keepsOwnership :
    ¬ KeepsOwnership [.attach { rest := [1] }, .startReader 4, .advanceReader 0,
        .attach { rest := [2] }, .stopReader 0] ∧
      ¬ KeepsOwnership [.attach { rest := [1], failsToClose := true }, .startReader 4,
        .advanceReader 0, .stopReader 0] := by
  constructor
  · intro hkeeps
    -- the second stream is not the response's any more and was never closed
    obtain ⟨stream, hstream, hopen⟩ := hkeeps _ List.prefix_rfl 1 (by decide)
    obtain rfl : ({ rest := [2] } : Stream) = stream := Option.some.inj hstream
    cases hopen.mpr rfl
  · intro hkeeps
    -- the stream was closed, and the response has it still
    obtain ⟨stream, hstream, hopen⟩ := hkeeps _ List.prefix_rfl 0 (by decide)
    obtain rfl := Option.some.inj hstream
    cases hopen.mp rfl

end Delivery

end VersionedAssets
