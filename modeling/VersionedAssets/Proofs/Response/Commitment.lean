import VersionedAssets.Proofs.Response.Operations

/-! # What a commit makes final

A response is committed at most once. From then on everything that would write it is refused, and
all that can still happen to it is that its stream is let go. A response whose status has no body
has none from its commit on, so that a reader that comes later finds nothing.
-/

namespace VersionedAssets

namespace Delivery

open Sink

section

variable {delivery : Delivery}

/-! ## Committed responses -/

/-- What would write a committed response is refused and leaves it as it is. -/
theorem perform_of_committed (hcommitted : delivery.sink.response.committed = true)
    {operation : Operation} (hwriting : operation.IsWriting) :
    (delivery.perform operation).1 = .error .committed ∧
      (delivery.perform operation).2.sink.response = delivery.sink.response := by
  have hwrite {write : Writing Unit} {after : Sink}
      (hrefused : write delivery.sink = (.error .committed, after))
      (hsame : after.response = delivery.sink.response) :
      (delivery.write write).1 = .error .committed ∧
        (delivery.write write).2.sink.response = delivery.sink.response := by
    rw [Delivery.write, hrefused]
    exact ⟨rfl, hsame⟩
  cases operation with
  | setStatus code => exact hwrite (setStatusCode_of_committed hcommitted code) rfl
  | setHeader name value => exact hwrite (setHeader_of_committed hcommitted name value) rfl
  | setBody body => exact hwrite (setBody_of_committed hcommitted body) rfl
  | attach stream =>
      have hadded : (delivery.sink.adding stream).response.committed = true := hcommitted
      have hrefused := (addStream_bind stream attach delivery.sink).trans
        (attach_of_committed hadded _)
      exact hwrite hrefused rfl
  | attachFile filename stream =>
      have hadded : (delivery.sink.adding stream).response.committed = true := hcommitted
      have hrefused := (addStream_bind stream (attachFile filename) delivery.sink).trans
        (attachFile_of_committed hadded _ _)
      exact hwrite hrefused rfl
  | commit => exact hwrite (commit_of_committed hcommitted) rfl
  | _ => exact hwriting.elim

/-- All that can happen to a committed response is that it lets its stream go. -/
theorem loosens_perform (hcommitted : delivery.sink.response.committed = true)
    {operation : Operation} (hasked : ¬ operation.IsUnasked) :
    Loosens delivery.sink.response (delivery.perform operation).2.sink := by
  by_cases hwriting : operation.IsWriting
  · exact .inl (perform_of_committed hcommitted hwriting).2
  · exact delivery.loosens_perform_of_isServed (Operation.isServed_of_not_isWriting hwriting hasked)

/-- Whatever happens to a committed response, all that may differ is that its stream is gone, and
the headers that were written without asking. -/
theorem exists_perform_response (hcommitted : delivery.sink.response.committed = true)
    (operation : Operation) :
    ∃ headers stream, (stream = delivery.sink.response.stream ∨ stream = none) ∧
      (delivery.perform operation).2.sink.response =
        { delivery.sink.response with headers, stream } := by
  by_cases hasked : operation.IsUnasked
  · cases operation with
    | assignHeader name value => exact ⟨_, _, .inl rfl, rfl⟩
    | _ => exact hasked.elim
  · rcases loosens_perform hcommitted hasked with hsame | hgone
    · exact ⟨_, _, .inl rfl, hsame⟩
    · exact ⟨_, _, .inr rfl, hgone⟩

theorem committed_perform (hcommitted : delivery.sink.response.committed = true)
    (operation : Operation) : (delivery.perform operation).2.sink.response.committed = true := by
  obtain ⟨headers, stream, -, hresponse⟩ := exists_perform_response hcommitted operation
  rw [hresponse]
  exact hcommitted

/-- Nothing but a commit makes a response committed. -/
theorem open_perform (hopen : delivery.sink.response.committed = false) {operation : Operation}
    (hother : operation ≠ .commit) :
    (delivery.perform operation).2.sink.response.committed = false := by
  rcases operation.kinds with hplain | ⟨stream, hgiven⟩ | hcommit | hserved
  · obtain ⟨⟨_, _, _, hsink⟩, -⟩ := delivery.rewrites_perform hplain
    rw [hsink]
    exact hopen
  · obtain ⟨run, htakes, hperform⟩ := delivery.perform_of_given hgiven
    rw [hperform]
    cases htakes with
    | refused fault => exact hopen
    | stuck fault =>
        dsimp only
        rw [release_response]
        exact hopen
    | taken headers filename => exact hopen
  · exact absurd hcommit hother
  · rw [(delivery.loosens_perform_of_isServed hserved).committed_eq, hopen]

/-- How often a commit succeeds in a run. -/
def commitCount (delivery : Delivery) : List Operation → Nat
  | [] => 0
  | operation :: rest =>
    (if operation = .commit ∧ (delivery.perform operation).1.isOk then 1 else 0) +
      (delivery.perform operation).2.commitCount rest

theorem commitCount_of_committed (hcommitted : delivery.sink.response.committed = true)
    (operations : List Operation) : delivery.commitCount operations = 0 := by
  induction operations generalizing delivery with
  | nil => rfl
  | cons operation rest ih =>
      rw [commitCount, ih (committed_perform hcommitted operation), if_neg]
      rintro ⟨rfl, hok⟩
      have hwriting : Operation.commit.IsWriting := trivial
      rw [(perform_of_committed hcommitted hwriting).1] at hok
      cases hok

theorem commitCount_le (delivery : Delivery) (operations : List Operation) :
    delivery.commitCount operations ≤ 1 := by
  induction operations generalizing delivery with
  | nil => exact Nat.zero_le 1
  | cons operation rest ih =>
      cases hstage : delivery.sink.response.committed with
      | true =>
          rw [commitCount_of_committed hstage]
          exact Nat.zero_le 1
      | false =>
          rw [commitCount]
          split
          next hcommits =>
            obtain ⟨rfl, hok⟩ := hcommits
            rcases commit_cases hstage with ⟨-, hcommitted, -⟩ | ⟨fault, -, hfailed⟩
            · have hnone : (delivery.perform .commit).2.commitCount rest = 0 :=
                commitCount_of_committed hcommitted rest
              exact hnone ▸ Nat.le_refl 1
            · simp [perform, write, hfailed, Except.map, Except.isOk, Except.toBool] at hok
          next => simpa using ih _

/-! ## Responses without a body -/

/-- The response is committed and has neither a stream nor bytes. -/
structure IsBare (delivery : Delivery) : Prop where
  committed : delivery.sink.response.committed = true
  stream_eq : delivery.sink.response.stream = none
  body_eq : delivery.sink.response.body = []

theorem IsBare.perform (hbare : delivery.IsBare) (operation : Operation) :
    (delivery.perform operation).2.IsBare := by
  obtain ⟨hcommitted, hnone, hbody⟩ := hbare
  obtain ⟨headers, stream, hstream, hresponse⟩ := exists_perform_response hcommitted operation
  rw [hnone, or_self] at hstream
  refine ⟨committed_perform hcommitted operation, ?_, ?_⟩
  · rw [hresponse]
    exact hstream
  · rw [hresponse]
    exact hbody

theorem IsBare.performAll (hbare : delivery.IsBare) (operations : List Operation) :
    (delivery.performAll operations).IsBare :=
  performAll_induction _ (fun _ operation _ hbare => hbare.perform operation) hbare

/-- If a response was committed with a status that has no body, it has none. -/
def IsSettled (delivery : Delivery) : Prop :=
  delivery.sink.response.committed = true →
    delivery.sink.response.status.allowsBody = false → delivery.IsBare

theorem IsSettled.perform (hsettled : delivery.IsSettled) (operation : Operation) :
    (delivery.perform operation).2.IsSettled := by
  intro hafter hbodiless
  cases hstage : delivery.sink.response.committed with
  | true =>
      -- the status was the same before, so the response had no body then
      obtain ⟨headers, stream, -, hresponse⟩ := exists_perform_response hstage operation
      rw [hresponse] at hbodiless
      exact (hsettled hstage hbodiless).perform operation
  | false =>
      by_cases hcommit : operation = .commit
      · subst hcommit
        rcases commit_cases hstage with ⟨-, hcommitted, hnone⟩ | ⟨fault, -, hfailed⟩
        · obtain ⟨hstream, hbody⟩ := hnone hbodiless
          exact ⟨hcommitted, hstream, hbody⟩
        · have hopen : (delivery.perform .commit).2.sink.response.committed = false := by
            simp only [Delivery.perform, write, hfailed, release_response]
            exact hstage
          rw [hopen] at hafter
          cases hafter
      · rw [open_perform hstage hcommit] at hafter
        cases hafter

/-- If there is a reader in the place, it is idle. -/
def IsIdleAt (delivery : Delivery) (index : Nat) : Prop :=
  ∀ reader, delivery.readers[index]? = some reader → reader.IsIdle

variable {index : Nat}

theorem IsIdleAt.useReader {α : Type} (hidle : delivery.IsIdleAt index) (number : Int)
    {use : Reader → Sink → Except Fault α × Reader × Sink}
    (huse : ∀ reader, reader.IsIdle → (use reader delivery.sink).2.1.IsIdle) :
    (delivery.useReader number use).2.IsIdleAt index := by
  rcases delivery.useReader_cases number use with ⟨-, hrun⟩ | ⟨place, used, -, hused, hrun⟩
  · rwa [hrun]
  · rw [hrun]
    intro reader hreader
    by_cases hsame : place = index
    · subst hsame
      have hlt := (List.getElem?_eq_some_iff.mp hused).1
      obtain rfl : (use used delivery.sink).2.1 = reader := by simpa [hlt] using hreader
      exact huse used (hidle used hused)
    · rw [List.getElem?_set_ne hsame] at hreader
      exact hidle reader hreader

theorem IsIdleAt.perform (hbare : delivery.IsBare) (hidle : delivery.IsIdleAt index)
    (operation : Operation) : (delivery.perform operation).2.IsIdleAt index := by
  cases operation with
  | startReader size =>
      intro reader hreader
      simp only [Delivery.perform, List.getElem?_append] at hreader
      split at hreader
      next => exact hidle reader hreader
      next =>
        obtain rfl := List.mem_singleton.mp (List.mem_of_getElem? hreader)
        exact trivial
  | advanceReader number =>
      refine hidle.useReader number fun reader hreader => ?_
      rw [Reader.advance_of_isIdle hreader hbare.stream_eq hbare.body_eq]
      exact trivial
  | stopReader number =>
      exact hidle.useReader number fun reader _ => reader.close_isIdle _
  | _ => exact hidle

theorem IsIdleAt.performAll (hbare : delivery.IsBare) (hidle : delivery.IsIdleAt index)
    (operations : List Operation) : (delivery.performAll operations).IsIdleAt index := by
  have hrun : (delivery.performAll operations).IsBare ∧
      (delivery.performAll operations).IsIdleAt index := by
    apply performAll_induction (fun delivery => delivery.IsBare ∧ delivery.IsIdleAt index)
    · rintro delivery operation - ⟨hbare, hidle⟩
      exact ⟨hbare.perform operation, hidle.perform hbare operation⟩
    · exact ⟨hbare, hidle⟩
  exact hrun.2

/-- In a response without a body, an idle reader ends at once. -/
theorem perform_advance_of_isIdleAt (hbare : delivery.IsBare) (hidle : delivery.IsIdleAt index)
    {number : Int} (hplace : delivery.place number = some index) :
    (delivery.perform (.advanceReader number)).1 = .ok none := by
  rcases delivery.useReader_cases number Reader.advance with
    ⟨hnone, -⟩ | ⟨place, reader, hsome, hreader, hrun⟩
  · rw [hplace] at hnone
    cases hnone
  · obtain rfl := Option.some.inj (hplace.symm.trans hsome)
    rw [Delivery.perform, advance, hrun]
    dsimp only
    rw [Reader.advance_of_isIdle (hidle reader hreader) hbare.stream_eq hbare.body_eq]

/-! ## Runs -/

theorem committed_performAll (hcommitted : delivery.sink.response.committed = true)
    (operations : List Operation) :
    (delivery.performAll operations).sink.response.committed = true := by
  apply performAll_induction (fun delivery => delivery.sink.response.committed = true)
  · intro delivery operation _ hcommitted
    exact committed_perform hcommitted operation
  · exact hcommitted

theorem loosens_performAll (hcommitted : delivery.sink.response.committed = true)
    {operations : List Operation} (hasked : ∀ operation ∈ operations, ¬ operation.IsUnasked) :
    Loosens delivery.sink.response (delivery.performAll operations).sink := by
  let start := delivery.sink.response
  have hrun : (delivery.performAll operations).sink.response.committed = true ∧
      Loosens start (delivery.performAll operations).sink := by
    apply performAll_induction
      (fun delivery => delivery.sink.response.committed = true ∧ Loosens start delivery.sink)
    · rintro delivery operation hmem ⟨hcommitted, hloosens⟩
      exact ⟨committed_perform hcommitted operation,
        hloosens.trans (loosens_perform hcommitted (hasked operation hmem))⟩
    · exact ⟨hcommitted, .inl rfl⟩
  exact hrun.2

theorem IsSettled.performAll (hsettled : delivery.IsSettled) (operations : List Operation) :
    (delivery.performAll operations).IsSettled :=
  performAll_induction _ (fun _ operation _ hsettled => hsettled.perform operation) hsettled

end

/-- What a commit makes final, and what becomes of one that fails. -/
structure IsFinal (delivery : Delivery) : Prop where
  /-- Whatever happens to a committed response, all that would write it is refused. -/
  refuses : delivery.sink.response.committed = true → ∀ operations operation,
    operation.IsWriting →
      ((delivery.performAll operations).perform operation).1 = .error .committed
  /-- Its status, its headers, its bytes and its filename stay, and so does its stream until it is
  let go. Only those who write headers without asking can change it. -/
  keeps : delivery.sink.response.committed = true → ∀ operations,
    (∀ operation ∈ operations, ¬ operation.IsUnasked) →
      Loosens delivery.sink.response (delivery.performAll operations).sink
  /-- If its status has no body, it has none from now on. -/
  bare : delivery.sink.response.committed = true →
    delivery.sink.response.status.allowsBody = false → ∀ operations,
      (delivery.performAll operations).sink.response.stream = none ∧
        (delivery.performAll operations).sink.response.body = []
  /-- Then readers that were not advanced before, or come later, find nothing. -/
  silent : delivery.sink.response.committed = true →
    delivery.sink.response.status.allowsBody = false → ∀ operations number index,
      (delivery.performAll operations).place number = some index →
      (∀ reader, delivery.readers[index]? = some reader → ∃ size, reader = .fresh size) →
        ((delivery.performAll operations).perform (.advanceReader number)).1 = .ok none
  /-- A commit that fails although the response is open failed to close its stream, and leaves the
  response open and without it. -/
  commit_fails : delivery.sink.response.committed = false → ∀ fault,
    (delivery.perform .commit).1 = .error fault →
      (release delivery.sink).1 = .error fault ∧
        (delivery.perform .commit).2.sink.response.committed = false ∧
        (delivery.perform .commit).2.sink.response.stream = none

/-- However a response was written, it was committed once at most, and that was final. -/
theorem performAll_isFinal (operations : List Operation) :
    commitCount {} operations ≤ 1 ∧ (performAll {} operations).IsFinal := by
  have hfresh : ({} : Delivery).IsSettled := fun hcommitted => nomatch hcommitted
  have hsettled := hfresh.performAll operations
  refine ⟨commitCount_le _ _, ?_⟩
  generalize performAll {} operations = delivery at hsettled ⊢
  constructor
  case refuses =>
    intro hcommitted more operation hwriting
    exact (perform_of_committed (committed_performAll hcommitted more) hwriting).1
  case keeps =>
    intro hcommitted more hasked
    exact loosens_performAll hcommitted hasked
  case bare =>
    intro hcommitted hbodiless more
    obtain ⟨-, hstream, hbody⟩ := (hsettled hcommitted hbodiless).performAll more
    exact ⟨hstream, hbody⟩
  case silent =>
    intro hcommitted hbodiless more number index hplace hfresh
    have hidle : delivery.IsIdleAt index := by
      intro reader hreader
      obtain ⟨size, rfl⟩ := hfresh reader hreader
      exact trivial
    have hbare := hsettled hcommitted hbodiless
    exact perform_advance_of_isIdleAt (hbare.performAll more) (hidle.performAll hbare more) hplace
  case commit_fails =>
    intro hopen fault hfailed
    have hperform : delivery.perform .commit = ((commit delivery.sink).1.map fun _ => none,
        { delivery with sink := (commit delivery.sink).2 }) := rfl
    rw [hperform] at hfailed ⊢
    rcases commit_cases hopen with ⟨hok, -, -⟩ | ⟨other, hrelease, hcommit⟩
    · rw [hok] at hfailed
      cases hfailed
    · rw [hcommit] at hfailed ⊢
      obtain rfl := Except.error.inj hfailed
      dsimp only
      rw [release_response]
      exact ⟨hrelease, hopen, rfl⟩

/-- Bytes that were written under a status without a body go with the commit. A status that does not
exist is refused then because it comes too late. -/
theorem performAll_isFinal_noContent :
    let delivery :=
      performAll {} [.setStatus 204, .setBody [120], .startReader 4, .commit, .startReader 4]
    delivery.sink.response.committed = true ∧ delivery.sink.response.body = [] ∧
      (delivery.perform (.setStatus 999)).1 = .error .committed ∧
      (delivery.perform (.advanceReader 1)).1 = .ok none := by
  intro delivery
  have hcommitted : delivery.sink.response.committed = true := rfl
  have hbodiless : delivery.sink.response.status.allowsBody = false := rfl
  have hfinal : delivery.IsFinal :=
    (performAll_isFinal [.setStatus 204, .setBody [120], .startReader 4, .commit, .startReader 4]).2
  refine ⟨hcommitted, (hfinal.bare hcommitted hbodiless []).2,
    hfinal.refuses hcommitted [] (.setStatus 999) trivial,
    hfinal.silent hcommitted hbodiless [] 1 1 rfl fun reader hreader => ⟨4, ?_⟩⟩
  exact (Option.some.inj hreader).symm

end Delivery

end VersionedAssets
