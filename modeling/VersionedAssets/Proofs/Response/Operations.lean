import VersionedAssets.Proofs.Response.Delivery
import VersionedAssets.Proofs.Response.Sink

/-! # What one operation does to a response

An operation on a delivery is of one of four kinds. Some write the status, a header or the bytes;
some hand a stream over, which is attached unless the response is committed or the stream before
fails to close; one commits; and those of a server can at most let the stream of the response go.
-/

namespace VersionedAssets

open Actions

namespace Sink

/-! ## Letting the stream go -/

/-- The response is as it was, except that it may have let its stream go. -/
def Loosens (response : Response) (sink : Sink) : Prop :=
  sink.response = response ∨ sink.response = { response with stream := none }

section Loosens

variable {α : Type} {response : Response}

theorem Loosens.trans {first second : Sink} (hfirst : Loosens response first)
    (hsecond : Loosens first.response second) : Loosens response second := by
  rcases hfirst with hsame | hgone
  · rwa [hsame] at hsecond
  · rw [hgone] at hsecond
    rcases hsecond with hsame | hgone'
    · exact .inr hsame
    · exact .inr hgone'

theorem Loosens.committed_eq {sink : Sink} (hloosens : Loosens response sink) :
    sink.response.committed = response.committed := by
  rcases hloosens with hsame | hgone
  · rw [hsame]
  · rw [hgone]

theorem useStream_response (number : Nat) (use : Stream → Except Fault α × Stream) (missing : α)
    (sink : Sink) : (useStream number use missing sink).2.response = sink.response := by
  unfold useStream
  split <;> rfl

theorem loosens_useStream (number : Nat) (use : Stream → Except Fault α × Stream) (missing : α) :
    Leads (Loosens response) (Loosens response) (useStream number use missing) := by
  intro sink hloosens
  rwa [Loosens, useStream_response]

theorem loosens_detach : Leads (Loosens response) (Loosens response) detach := by
  rintro sink (hsame | hgone)
  · exact .inr (congrArg (fun response => { response with stream := none }) hsame)
  · exact .inr (congrArg (fun response => { response with stream := none }) hgone)

theorem loosens_finish (number : Nat) :
    Leads (Loosens response) (Loosens response) (finish number) :=
  (loosens_useStream _ _ _).bind fun _ => loosens_detach

theorem loosens_pull (number : Nat) (size : Int) :
    Leads (Loosens response) (Loosens response) (pull number size) := by
  have hread : Leads (Loosens response) (Loosens response)
      (useStream number (·.read size) []) := loosens_useStream _ _ _
  refine (hread.tryCatch fun fault => ?_).bind fun chunk => ?_
  · exact (loosens_finish number).bind fun _ => leads_throw fault
  · split
    · exact (loosens_finish number).bind fun _ => leads_pure _
    · exact leads_pure _

theorem release_response (sink : Sink) :
    (release sink).2.response = { sink.response with stream := none } := by
  cases hstream : sink.response.stream with
  | none =>
      rw [release_of_no_stream hstream, ← hstream]
  | some number =>
      have hsame := useStream_response number Stream.close () sink
      rw [release, bind_of_ok (get_apply sink)]
      simp only [hstream]
      rw [bind_apply, tryCatch_apply, closeStream]
      rcases hclose : useStream number Stream.close () sink with ⟨outcome, after⟩
      rw [hclose] at hsame
      rw [← hsame]
      cases outcome <;> rfl

end Loosens

/-! ## Closing a stream -/

/-- The sink after its response closed a stream and let it go. -/
def freed (sink : Sink) (number : Nat) (stream : Stream) : Sink where
  response := { sink.response with stream := none }
  streams := sink.streams.set number stream.closed

section Closing

variable {sink : Sink} {number : Nat} {stream : Stream}

theorem useStream_of_some {α : Type} (hstream : sink.streams[number]? = some stream)
    (use : Stream → Except Fault α × Stream) (missing : α) :
    useStream number use missing sink =
      ((use stream).1, { sink with streams := sink.streams.set number (use stream).2 }) := by
  simp only [useStream, hstream]

theorem closeStream_of_some (hstream : sink.streams[number]? = some stream) :
    closeStream number sink =
      (stream.close.1, { sink with streams := sink.streams.set number stream.closed }) := by
  rw [closeStream, useStream_of_some hstream, Stream.close_snd]

theorem release_of_owned (howned : sink.response.stream = some number)
    (hstream : sink.streams[number]? = some stream) :
    release sink = (stream.close.1, sink.freed number stream) := by
  rw [release, bind_of_ok (get_apply sink)]
  simp only [howned]
  rw [bind_apply, tryCatch_apply, closeStream_of_some hstream]
  cases stream.close.1 <;> rfl

/-- Letting go fails only if the stream of the response fails to close. -/
theorem exists_owned_of_release {fault : Fault} {after : Sink}
    (hrelease : release sink = (.error fault, after)) :
    ∃ number stream, sink.response.stream = some number ∧ sink.streams[number]? = some stream ∧
      stream.close.1 = .error fault := by
  cases howned : sink.response.stream with
  | none =>
      rw [release_of_no_stream howned] at hrelease
      cases hrelease
  | some number =>
      cases hstream : sink.streams[number]? with
      | none =>
          have hclose : closeStream number sink = (.ok (), sink) := by
            rw [closeStream, useStream, hstream]
          rw [release, bind_of_ok (get_apply sink)] at hrelease
          simp only [howned] at hrelease
          rw [bind_of_ok (tryCatch_of_ok hclose)] at hrelease
          cases hrelease
      | some stream =>
          rw [release_of_owned howned hstream] at hrelease
          exact ⟨number, stream, rfl, hstream, congrArg Prod.fst hrelease⟩

end Closing

/-! ## Handing a stream over -/

/-- The sink with one more stream opened. -/
def adding (sink : Sink) (stream : Stream) : Sink :=
  { sink with streams := sink.streams ++ [stream] }

/-- The stream that is added has the next number. -/
theorem addStream_bind {α : Type} (stream : Stream) (next : Nat → Writing α) (sink : Sink) :
    (addStream stream >>= next) sink = next sink.streams.length (sink.adding stream) := rfl

/-! ## Writing a committed response -/

section Committed

variable {sink : Sink} (hcommitted : sink.response.committed = true)

include hcommitted

theorem setStatusCode_of_committed (code : Int) :
    setStatusCode code sink = (.error .committed, sink) := by
  rw [setStatusCode, bind_of_error (checkOpen_of_committed hcommitted)]

theorem setHeader_of_committed (name value : String) :
    setHeader name value sink = (.error .committed, sink) := by
  rw [setHeader, bind_of_error (checkOpen_of_committed hcommitted)]

theorem setBody_of_committed (body : Bytes) : setBody body sink = (.error .committed, sink) := by
  rw [setBody, bind_of_error (checkOpen_of_committed hcommitted)]

theorem attach_of_committed (number : Nat) : attach number sink = (.error .committed, sink) := by
  rw [attach, bind_of_error (checkOpen_of_committed hcommitted)]

theorem attachFile_of_committed (filename : String) (number : Nat) :
    attachFile filename number sink = (.error .committed, sink) := by
  rw [attachFile, bind_of_error (attach_of_committed hcommitted number)]

end Committed

/-! ## What writing can do -/

/-- At most the status, the headers and the bytes of the response differ. -/
def Rewrites (start sink : Sink) : Prop :=
  ∃ status headers body,
    sink = { start with response := { start.response with status, headers, body } }

section

variable {start : Sink}

theorem rewrites_modify {change : Response → Response}
    (hchange : ∀ response, ∃ status headers body,
      change response = { response with status, headers, body }) :
    Leads start.Rewrites start.Rewrites (modifyResponse change) := by
  rintro sink ⟨status, headers, body, rfl⟩
  obtain ⟨status', headers', body', heq⟩ :=
    hchange { start.response with status, headers, body }
  refine ⟨status', headers', body', ?_⟩
  change Sink.mk (change _) _ = _
  rw [heq]

theorem checkOpen_snd (sink : Sink) : (checkOpen sink).2 = sink := by
  cases hcommitted : sink.response.committed with
  | true => rw [checkOpen_of_committed hcommitted]
  | false => rw [checkOpen_of_open hcommitted]

theorem leads_checkOpen {P : Sink → Prop} : Leads P P checkOpen := by
  intro sink hsink
  rwa [checkOpen_snd]

theorem rewrites_setStatusCode (code : Int) :
    Leads start.Rewrites start.Rewrites (setStatusCode code) := by
  refine leads_checkOpen.bind fun _ => ?_
  split
  · exact rewrites_modify fun _ => ⟨_, _, _, rfl⟩
  · exact leads_throw _

theorem rewrites_setHeader (name value : String) :
    Leads start.Rewrites start.Rewrites (setHeader name value) :=
  leads_checkOpen.bind fun _ => rewrites_modify fun _ => ⟨_, _, _, rfl⟩

theorem rewrites_setBody (body : Bytes) :
    Leads start.Rewrites start.Rewrites (setBody body) :=
  leads_checkOpen.bind fun _ => rewrites_modify fun _ => ⟨_, _, _, rfl⟩

end

section

variable {sink : Sink}

/-- How taking a stream ends. A committed response takes none, and neither does one whose stream
before fails to close; else that one is gone. -/
inductive Takes (sink : Sink) (number : Nat) : Except Fault Unit × Sink → Prop
  | refused (fault : Fault) : Takes sink number (.error fault, sink)
  | stuck (fault : Fault) : Takes sink number (.error fault, (release sink).2)
  | taken (headers : Fields String) (filename : Option String) :
      Takes sink number (.ok (),
        { response := { sink.response with stream := some number, body := [], headers, filename }
          streams := (release sink).2.streams })

theorem takes_attach (number : Nat) (sink : Sink) :
    sink.Takes number (attach number sink) := by
  cases hcommitted : sink.response.committed with
  | true =>
      rw [attach_of_committed hcommitted]
      exact .refused _
  | false =>
      have hresponse := sink.release_response
      have hstuck (fault : Fault) : sink.Takes number (.error fault, (release sink).2) :=
        .stuck fault
      have htaken := @Takes.taken sink number sink.response.headers sink.response.filename
      rw [attach, bind_of_ok (checkOpen_of_open hcommitted), bind_apply]
      rcases hrelease : release sink with ⟨outcome, response, streams⟩
      rw [hrelease] at hresponse hstuck htaken
      subst hresponse
      cases outcome with
      | error fault => exact hstuck fault
      | ok _ => exact htaken

/-- A download is taken as its stream is. -/
theorem takes_attachFile (filename : String) (number : Nat) (sink : Sink) :
    sink.Takes number (attachFile filename number sink) := by
  have htakes := takes_attach number sink
  rw [attachFile, bind_apply]
  rcases hrun : attach number sink with ⟨outcome, after⟩
  rw [hrun] at htakes
  cases htakes with
  | refused fault => exact .refused fault
  | stuck fault => exact .stuck fault
  | taken headers named =>
      simp only [modifyResponse, modify_apply, Response.assignHeader]
      split
      · exact .taken _ _
      · exact .taken _ _

theorem commit_of_bodiless (hopen : sink.response.committed = false)
    (hbody : sink.response.status.allowsBody = false) :
    commit sink = match release sink with
      | (.ok _, after) =>
        (.ok (), { after with response := { after.response with body := [], committed := true } })
      | (.error fault, after) => (.error fault, after) := by
  rw [commit, bind_of_ok (checkOpen_of_open hopen), bind_of_ok (get_apply sink)]
  simp only [hbody, Bool.not_false, if_true]
  rw [bind_apply]
  rcases release sink with ⟨_ | _, after⟩ <;> rfl

/-- A commit makes the response final, without a body if the status has none. It fails when the
stream that has to go for that fails to close; then the stream is gone and the response open. -/
theorem commit_cases (hopen : sink.response.committed = false) :
    ((commit sink).1 = .ok () ∧ (commit sink).2.response.committed = true ∧
        ((commit sink).2.response.status.allowsBody = false →
          (commit sink).2.response.stream = none ∧ (commit sink).2.response.body = [])) ∨
      ∃ fault, (release sink).1 = .error fault ∧
        commit sink = (.error fault, (release sink).2) := by
  cases hbody : sink.response.status.allowsBody with
  | true =>
      rw [commit_of_open hopen (.inr hbody)]
      exact .inl ⟨rfl, rfl, fun hbodiless => nomatch hbody.symm.trans hbodiless⟩
  | false =>
      have hresponse := congrArg Response.stream sink.release_response
      rw [commit_of_bodiless hopen hbody]
      rcases hrelease : release sink with ⟨outcome, after⟩
      rw [hrelease] at hresponse
      cases outcome with
      | error fault => exact .inr ⟨fault, rfl, rfl⟩
      | ok _ => exact .inl ⟨rfl, rfl, fun _ => ⟨hresponse, rfl⟩⟩

end

end Sink

/-! ## Readers -/

namespace Reader

open Sink

variable {response : Response} {sink : Sink}

theorem advanceStream_snd (number : Nat) (size : Int) (sink : Sink) :
    (advanceStream number size sink).2.2 = (pull number size sink).2 := by
  unfold advanceStream
  split
  next hrun => rw [hrun]
  next hrun => rw [hrun]

theorem loosens_advance (reader : Reader) (hloosens : Loosens response sink) :
    Loosens response (reader.advance sink).2.2 := by
  have hstream (number : Nat) (size : Int) :
      Loosens response (advanceStream number size sink).2.2 := by
    rw [advanceStream_snd]
    exact loosens_pull number size sink hloosens
  cases reader with
  | fresh size =>
      unfold advance
      dsimp only
      split
      · exact hstream _ _
      · split <;> exact hloosens
  | reading number size => exact hstream number size
  | spent => exact hloosens
  | finished => exact hloosens

theorem loosens_close (reader : Reader) (hloosens : Loosens response sink) :
    Loosens response (reader.close sink).2.2 := by
  cases reader with
  | reading number size => exact loosens_finish number sink hloosens
  | fresh _ => exact hloosens
  | spent => exact hloosens
  | finished => exact hloosens

/-- The reader has not been advanced, or it has ended. -/
def IsIdle : Reader → Prop
  | fresh _ | finished => True
  | _ => False

theorem advance_of_isIdle {reader : Reader} (hidle : reader.IsIdle)
    (hstream : sink.response.stream = none) (hbody : sink.response.body = []) :
    reader.advance sink = (.ok none, finished, sink) := by
  cases reader with
  | fresh size => simp [advance, hstream, hbody]
  | finished => rfl
  | _ => exact hidle.elim

theorem close_isIdle (reader : Reader) (sink : Sink) : (reader.close sink).2.1.IsIdle := by
  cases reader <;> exact trivial

end Reader

/-! ## Deliveries -/

namespace Delivery

open Sink

/-- The operation writes the response or makes it final. -/
def Operation.IsWriting : Operation → Prop
  | .setStatus _ | .setHeader _ _ | .setBody _ | .attach _ | .attachFile _ _ | .commit => True
  | _ => False

/-- The operation writes the status, a header or the bytes. -/
def Operation.IsPlain : Operation → Prop
  | .setStatus _ | .setHeader _ _ | .assignHeader _ _ | .setBody _ => True
  | _ => False

/-- The stream that the operation hands over. -/
def Operation.given? : Operation → Option Stream
  | .attach stream | .attachFile _ stream => some stream
  | _ => none

/-- The operation writes a header without asking whether the response is committed. -/
def Operation.IsUnasked : Operation → Prop
  | .assignHeader _ _ => True
  | _ => False

theorem Operation.kinds (operation : Operation) :
    operation.IsPlain ∨ (∃ stream, operation.given? = some stream) ∨ operation = .commit ∨
      operation.IsServed := by
  cases operation <;> simp [IsPlain, given?, IsServed]

theorem Operation.isServed_of_not_isWriting {operation : Operation}
    (hwriting : ¬ operation.IsWriting) (hasked : ¬ operation.IsUnasked) : operation.IsServed := by
  cases operation <;> simp_all [IsWriting, IsUnasked, IsServed]

section

variable {delivery : Delivery}

theorem loosens_useReader {α : Type} {response : Response} (number : Int)
    {use : Reader → Sink → Except Fault α × Reader × Sink}
    (huse : ∀ reader, Loosens response (use reader delivery.sink).2.2)
    (hloosens : Loosens response delivery.sink) :
    Loosens response (delivery.useReader number use).2.sink := by
  rcases delivery.useReader_cases number use with ⟨-, hrun⟩ | ⟨_, reader, -, -, hrun⟩
  · rwa [hrun]
  · rw [hrun]
    exact huse reader

theorem rewrites_perform (delivery : Delivery) {operation : Operation}
    (hplain : operation.IsPlain) :
    delivery.sink.Rewrites (delivery.perform operation).2.sink ∧
      (delivery.perform operation).2.readers = delivery.readers := by
  have hstart : delivery.sink.Rewrites delivery.sink := ⟨_, _, _, rfl⟩
  cases operation with
  | setStatus code => exact ⟨rewrites_setStatusCode code _ hstart, rfl⟩
  | setHeader name value => exact ⟨rewrites_setHeader name value _ hstart, rfl⟩
  | assignHeader name value => exact ⟨⟨_, _, _, rfl⟩, rfl⟩
  | setBody body => exact ⟨rewrites_setBody body _ hstart, rfl⟩
  | _ => exact hplain.elim

theorem perform_of_given (delivery : Delivery) {operation : Operation} {stream : Stream}
    (hgiven : operation.given? = some stream) :
    ∃ run, (delivery.sink.adding stream).Takes delivery.sink.streams.length run ∧
      delivery.perform operation = (run.1.map fun _ => none, { delivery with sink := run.2 }) := by
  cases operation with
  | attach given =>
      obtain rfl : given = stream := Option.some.inj hgiven
      exact ⟨_, takes_attach _ _, rfl⟩
  | attachFile filename given =>
      obtain rfl : given = stream := Option.some.inj hgiven
      exact ⟨_, takes_attachFile filename _ _, rfl⟩
  | _ => cases hgiven

/-- What a server does with a body can only let the stream of the response go. -/
theorem loosens_perform_of_isServed (delivery : Delivery) {operation : Operation}
    (hserved : operation.IsServed) :
    Loosens delivery.sink.response (delivery.perform operation).2.sink := by
  have hstart : Loosens delivery.sink.response delivery.sink := .inl rfl
  cases operation with
  | release => exact .inr (release_response _)
  | startReader size => exact hstart
  | advanceReader number =>
      exact loosens_useReader number (fun reader => reader.loosens_advance hstart) hstart
  | stopReader number =>
      exact loosens_useReader number (fun reader => reader.loosens_close hstart) hstart
  | _ => exact hserved.elim

end

end Delivery

end VersionedAssets
