import VersionedAssets.Proofs.Application.Replies

/-! # No request leaks a stream

A request opens at most one stream. It is closed when the reply fails and when there is no body to
read, and neither of the two reads from it. Otherwise the response owns it, and it is closed once
the server has released the response, whatever the server did with its readers and whatever went
wrong meanwhile.
-/

namespace VersionedAssets.Application

open Actions

/-- Whatever a server does with the response, once it has released it the streams opened for it are
closed, and the earlier ones are as they were. -/
def ClosesWhenReleased (front opened : List Stream) (response : Response) : Prop :=
  ∀ operations : List Delivery.Operation, (∀ operation ∈ operations, operation.IsServed) →
    .release ∈ operations →
    ∃ ended, ended.length = opened.length ∧ (∀ stream ∈ ended, stream.isClosed = true) ∧
      (Delivery.performAll { sink := { response, streams := front ++ opened } }
        operations).sink.streams = front ++ ended

/-- What becomes of the streams that are opened for a request. -/
inductive LeaksNothing (request : Request) (world : World) (opened : List Stream) :
    Except Fault Reply × World → Prop
  /-- A reply that fails has closed them, unread. -/
  | failed {fault : Fault} {left : World}
      (hstreams : left.streams = world.streams ++ opened.map Stream.closed) :
      LeaksNothing request world opened (.error fault, left)
  /-- So has one without a body. -/
  | bodiless {reply : Reply} {left : World} (hbody : reply.body = none)
      (hstreams : left.streams = world.streams ++ opened.map Stream.closed) :
      LeaksNothing request world opened (.ok reply, left)
  /-- Only answers that may have a body leave the streams to the server. -/
  | delivered {reply : Reply} {response : Response} {left : World}
      (hbody : reply.body = some response) (hhead : request.isHead = false)
      (hstatus : reply.status ≠ Status.notModified.line)
      (hstreams : left.streams = world.streams ++ opened)
      (hcloses : ClosesWhenReleased world.streams opened response) :
      LeaksNothing request world opened (.ok reply, left)

/-- A response closes what it owns. -/
theorem closesWhenReleased_of_holds {front opened : List Stream} {response : Response}
    (hholds : Sink.Holds front opened.length (fun _ => True)
      { response, streams := front ++ opened }) : ClosesWhenReleased front opened response := by
  intro operations hserved hrelease
  have hdelivery : Delivery.Holds front opened.length (fun _ => True)
      { sink := { response, streams := front ++ opened } } := ⟨hholds, by simp⟩
  obtain ⟨⟨-, ⟨ended, hstreams, hlength, hclosed, -⟩, -⟩, -⟩ :=
    hdelivery.performAll_release Stream.persists_true hserved hrelease
  exact ⟨ended, hlength, fun stream hstream => (hclosed stream hstream).2, hstreams⟩

theorem closesWhenReleased_of_no_stream (front : List Stream) {response : Response}
    (hstream : response.stream = none) : ClosesWhenReleased front [] response := by
  refine closesWhenReleased_of_holds ⟨by decide, ⟨[], rfl, rfl, by simp, by simp⟩, ?_⟩
  intro number howned
  rw [hstream] at howned
  cases howned

theorem closesWhenReleased_of_stream {front : List Stream} (stream : Stream) {response : Response}
    (howned : response.stream = some front.length) :
    ClosesWhenReleased front [stream] response := by
  refine closesWhenReleased_of_holds ⟨Nat.le_refl 1, ⟨[stream], rfl, rfl, by simp, ?_⟩, ?_⟩
  · intro hnone
    rw [howned] at hnone
    cases hnone
  · intro number hnumber
    rw [howned] at hnumber
    exact (Option.some.inj hnumber).symm

/-- For every request and every behaviour of stores and streams, what is opened is closed. -/
theorem reply_leaksNothing {app : Application} (hlogged : app.IsLogged) {world : World}
    (hdated : Moment.InYears 1 9999 world.now) (environ : Environ) :
    ∃ opened : List Stream, opened.length ≤ 1 ∧
      (∀ stream ∈ opened, app.Streams (Request.ofEnviron environ) world.host stream) ∧
      LeaksNothing (Request.ofEnviron environ) world opened (app.reply environ world) := by
  have hreplies := replies_reply hlogged hdated environ
  generalize app.reply environ world = run at hreplies ⊢
  cases hreplies with
  | @plain reply _ _ hbody hnone hleft =>
      refine ⟨[], by decide, by simp, ?_⟩
      cases hresponse : reply.body with
      | none => exact .bodiless hresponse hleft.streams_eq
      | some response =>
          rw [hresponse] at hnone
          refine .delivered hresponse ?_ ?_ hleft.streams_eq
            (closesWhenReleased_of_no_stream _ (hbody response hresponse))
          · rw [← Bool.not_eq_true]
            exact fun hhead => nomatch hnone (.inl hhead)
          · exact fun hline => nomatch hnone (.inr hline)
  | @streaming stream reply response _ hstreams hhead hstatus hbody howned hleft =>
      refine ⟨[stream], Nat.le_refl 1, by simpa using hstreams, ?_⟩
      have hline : reply.status ≠ Status.notModified.line := by
        rw [hstatus]
        decide +kernel
      exact .delivered hbody hhead hline hleft.streams_eq
        (closesWhenReleased_of_stream stream howned)
  | @closing stream reply _ hstreams _ hbody hleft =>
      refine ⟨[stream], Nat.le_refl 1, by simpa using hstreams, ?_⟩
      cases stream.close.1 with
      | error fault => exact .failed hleft.streams_eq
      | ok _ => exact .bodiless hbody hleft.streams_eq
  | failing _ hleft => exact ⟨[], by decide, by simp, .failed hleft.streams_eq⟩

/-- A script whose second read fails, and which fails to close, is closed all the same. -/
theorem reply_leaksNothing_faulty :
    let faulty : Stream := { rest := [120], failingReads := [2], failsToClose := true }
    let script : Location :=
      { uri := "memory:x.js", filename := "x.js", modified := fun _ => .ok (.whole 5)
        content := fun _ => .ok faulty }
    let app : Application :=
      { handlers := [.ofStore "" { name := "store", lookup := fun _ _ => .silent (.ok script) }]
        layers := [AccessLog.toMiddleware {}] }
    let environ : Environ := ⟨[("REQUEST_METHOD", "GET"), ("PATH_INFO", "/x.js")]⟩
    (app.reply environ {}).2.streams = [faulty] ∧
      ∃ opened : List Stream, opened.length ≤ 1 ∧
        LeaksNothing (Request.ofEnviron environ) {} opened (app.reply environ {}) := by
  intro faulty script app environ
  have hlogged : app.IsLogged := ⟨[{}], rfl⟩
  obtain ⟨opened, hone, -, hleaks⟩ :=
    reply_leaksNothing hlogged (by decide +kernel : Moment.InYears 1 9999 ({} : World).now) environ
  exact ⟨by decide +kernel, opened, hone, hleaks⟩

end VersionedAssets.Application
