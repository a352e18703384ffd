import VersionedAssets.Proofs.Application.Dispatch
import VersionedAssets.Proofs.HttpDate
import VersionedAssets.Proofs.Response.Operations

/-! # What servers are given

A server is given the answer to a request as it is, unless there is no body to read: then the stream
of the answer is closed first, and a stream that fails to close is a fault of the reply. The headers
can always be made as long as the clock shows a year that dates can be written for.
-/

namespace VersionedAssets

open Actions

theorem Sink.release_of_stream {response : Response} {front : List Stream} (stream : Stream)
    (howned : response.stream = some front.length) :
    release { response, streams := front ++ [stream] } =
      (stream.close.1,
        { response := { response with stream := none }, streams := front ++ [stream.closed] }) := by
  have hstream : (front ++ [stream])[front.length]? = some stream := by simp
  rw [release_of_owned howned hstream]
  simp [freed]

namespace Response

theorem exists_headerItems {now : Int} (hdated : Moment.InYears 1 9999 now) (response : Response)
    (server : String) : ∃ headers, response.headerItems now server = .ok headers := by
  rw [headerItems, HttpDate.ofMillis_of_inYears hdated]
  split
  · exact ⟨_, rfl⟩
  · exact ⟨_, rfl⟩

end Response

namespace Application

theorem closeBody_of_stream {response : Response} {before after : World} {stream : Stream}
    (howned : response.stream = some before.streams.length)
    (hextends : before.Extends after [stream]) :
    ∃ left, closeBody response after = (stream.close.1, left) ∧
      before.Extends left [stream.closed] := by
  refine ⟨{ after with streams := before.streams ++ [stream.closed] }, ?_,
    ⟨hextends.host_eq, hextends.now_eq, rfl⟩⟩
  rw [closeBody, Serving.onResponse, hextends.streams_eq, Sink.release_of_stream stream howned]

/-- What a server is given for a request. -/
inductive Replies (app : Application) (request : Request) (world : World) :
    Except Fault Reply × World → Prop
  | plain {reply : Reply} {left : World} (hplain : app.IsPlain request world.host)
      (hbody : ∀ response, reply.body = some response → response.stream = none)
      (hnone : request.isHead = true ∨ reply.status = Status.notModified.line →
        reply.body = none)
      (hleft : world.Extends left []) : Replies app request world (.ok reply, left)
  | streaming {stream : Stream} {reply : Reply} {response : Response} {left : World}
      (hstreams : app.Streams request world.host stream) (hhead : request.isHead = false)
      (hstatus : reply.status = Status.ok.line) (hbody : reply.body = some response)
      (howned : response.stream = some world.streams.length)
      (hleft : world.Extends left [stream]) : Replies app request world (.ok reply, left)
  | closing {stream : Stream} {reply : Reply} {left : World}
      (hstreams : app.Streams request world.host stream) (hhead : request.isHead = true)
      (hbody : reply.body = none) (hleft : world.Extends left [stream.closed]) :
      Replies app request world (stream.close.1.map fun _ => reply, left)
  | failing {fault : Fault} {left : World} (hfails : app.Fails request world.host fault)
      (hleft : world.Extends left []) : Replies app request world (.error fault, left)

section

variable {app : Application} {environ : Environ} {world left : World} {response : Response}
  {headers : List (String × String)}

theorem reply_of_error {fault : Fault}
    (hanswer : app.handleRequest (Request.ofEnviron environ) world = (.error fault, left)) :
    app.reply environ world = (.error fault, left) := by
  simp only [reply]
  rw [bind_of_error hanswer]

/-- The reply when the headers of the answer cannot be made. -/
theorem reply_of_headers_error {fault : Fault}
    (hanswer : app.handleRequest (Request.ofEnviron environ) world = (.ok response, left))
    (hheaders : response.headerItems left.now serverName = .error fault) :
    app.reply environ world = (.error fault, left) := by
  let items : Serving (List (String × String)) := fun world =>
    (response.headerItems world.now serverName, world)
  have hitems : items left = (.error fault, left) := by
    change (response.headerItems left.now serverName, left) = _
    rw [hheaders]
  simp only [reply]
  rw [bind_of_ok hanswer]
  exact bind_of_error hitems

/-- The reply once the answer and its headers are there. -/
theorem reply_of_ok
    (hanswer : app.handleRequest (Request.ofEnviron environ) world = (.ok response, left))
    (hheaders : response.headerItems left.now serverName = .ok headers) :
    app.reply environ world =
      if (Request.ofEnviron environ).isHead || !response.status.allowsBody then
        ((closeBody response left).1.map fun _ =>
            { status := response.status.line, headers, body := none },
          (closeBody response left).2)
      else (.ok { status := response.status.line, headers, body := some response }, left) := by
  let items : Serving (List (String × String)) := fun world =>
    (response.headerItems world.now serverName, world)
  have hitems : items left = (.ok headers, left) := by
    change (response.headerItems left.now serverName, left) = _
    rw [hheaders]
  simp only [reply]
  rw [bind_of_ok hanswer]
  refine (bind_of_ok hitems).trans ?_
  split
  · rw [bind_apply]
    rcases closeBody response left with ⟨_ | _, after⟩ <;> rfl
  · rfl

/-- A reply is made of an answer and its headers, and either the body is closed or the server may
read it. -/
theorem reply_eq_ok {reply : Reply} (hreply : app.reply environ world = (.ok reply, left)) :
    ∃ response after, app.handleRequest (Request.ofEnviron environ) world = (.ok response, after) ∧
      reply.status = response.status.line ∧
      response.headerItems after.now serverName = .ok reply.headers ∧
      (((Request.ofEnviron environ).isHead = true ∨ response.status.allowsBody = false) ∧
          reply.body = none ∨
        (Request.ofEnviron environ).isHead = false ∧ response.status.allowsBody = true ∧
          reply.body = some response ∧ left = after) := by
  rcases hanswer : app.handleRequest (Request.ofEnviron environ) world with
    ⟨fault | response, after⟩
  · cases (reply_of_error hanswer).symm.trans hreply
  · cases hheaders : response.headerItems after.now serverName with
    | error fault => cases (reply_of_headers_error hanswer hheaders).symm.trans hreply
    | ok headers =>
        refine ⟨response, after, rfl, ?_⟩
        rw [reply_of_ok hanswer hheaders] at hreply
        split at hreply
        next hbodiless =>
          have hbodiless' : (Request.ofEnviron environ).isHead = true ∨
              response.status.allowsBody = false := by simpa using hbodiless
          cases hclose : (closeBody response after).1 with
          | error fault =>
              rw [hclose] at hreply
              cases hreply
          | ok _ =>
              rw [hclose] at hreply
              obtain rfl := Except.ok.inj (Prod.mk.inj hreply).1
              exact ⟨rfl, hheaders, .inl ⟨hbodiless', rfl⟩⟩
        next hbody =>
          have hbody' : (Request.ofEnviron environ).isHead = false ∧
              response.status.allowsBody = true := by simpa using hbody
          obtain rfl := Except.ok.inj (Prod.mk.inj hreply).1
          exact ⟨rfl, hheaders, .inr ⟨hbody'.1, hbody'.2, rfl, (Prod.mk.inj hreply).2.symm⟩⟩

end

theorem eq_notModified_of_line {status : Status}
    (hline : status.line = Status.notModified.line) : status = .notModified := by
  cases status with
  | notModified => rfl
  | _ => exact absurd hline (by decide +kernel)

variable {app : Application} {world : World}

/-- The four ways in which a server is replied to. -/
theorem replies_reply (hlogged : app.IsLogged) (hdated : Moment.InYears 1 9999 world.now)
    (environ : Environ) :
    app.Replies (Request.ofEnviron environ) world (app.reply environ world) := by
  -- the headers need the clock, which the answer leaves as it was
  have hanswers := answers_handleRequest hlogged (Request.ofEnviron environ) world
  rcases hrun : app.handleRequest (Request.ofEnviron environ) world with ⟨outcome, left⟩
  rw [hrun] at hanswers
  cases hanswers with
  | failing hfails hleft =>
      rw [reply_of_error hrun]
      exact .failing hfails hleft
  | @plain response _ hplain hstream _ hleft =>
      rw [← hleft.now_eq] at hdated
      obtain ⟨headers, hheaders⟩ := response.exists_headerItems hdated serverName
      rw [reply_of_ok hrun hheaders, closeBody_of_no_stream hstream]
      split
      next => exact .plain hplain (fun _ hbody => nomatch hbody) (fun _ => rfl) hleft
      next hbody =>
        simp only [Bool.or_eq_true, Bool.not_eq_true', not_or, Bool.not_eq_true,
          Bool.not_eq_false] at hbody
        refine .plain hplain (fun other hother => ?_) (fun hnone => ?_) hleft
        · rwa [← Option.some.inj hother]
        · rcases hnone with hhead | hline
          · simp [hbody.1] at hhead
          · rw [eq_notModified_of_line hline] at hbody
            simp [Status.allowsBody] at hbody
  | @streaming stream response _ hstreams howned hstatus _ hleft =>
      rw [← hleft.now_eq] at hdated
      obtain ⟨headers, hheaders⟩ := response.exists_headerItems hdated serverName
      rw [reply_of_ok hrun hheaders, hstatus]
      cases hhead : (Request.ofEnviron environ).isHead with
      | true =>
          obtain ⟨after, hclose, hafter⟩ := closeBody_of_stream howned hleft
          rw [hclose]
          exact .closing hstreams hhead rfl hafter
      | false => exact .streaming hstreams hhead rfl rfl howned hleft

/-- The head of a resource is asked for, and its stream refuses to be closed. -/
inductive RefusesToClose (app : Application) (request : Request) (host : Host) (fault : Fault) :
    Prop
  | unread {stream : Stream} (hhead : request.isHead = true)
      (hstreams : app.Streams request host stream) (hclose : stream.close.1 = .error fault)

/-- A reply fails with a fault of the handler or of closing a stream, and with no other. -/
theorem reply_eq_error_iff (hlogged : app.IsLogged) (hdated : Moment.InYears 1 9999 world.now)
    (environ : Environ) (fault : Fault) :
    (app.reply environ world).1 = .error fault ↔
      app.Fails (Request.ofEnviron environ) world.host fault ∨
        app.RefusesToClose (Request.ofEnviron environ) world.host fault := by
  have hreplies := replies_reply hlogged hdated environ
  generalize app.reply environ world = run at hreplies ⊢
  cases hreplies with
  | plain hplain _ _ _ =>
      refine iff_of_false (fun heq => nomatch heq) ?_
      rintro (hfails | ⟨-, hstreams, -⟩)
      · exact hplain.not_fails _ hfails
      · exact hplain.not_streams _ hstreams
  | streaming hstreams hhead _ _ _ _ =>
      refine iff_of_false (fun heq => nomatch heq) ?_
      rintro (hfails | ⟨hhead', -, -⟩)
      · exact hfails.not_streams _ hstreams
      · cases hhead.symm.trans hhead'
  | @closing stream answer _ hstreams hhead _ _ =>
      have hclose : (stream.close.1.map fun _ => answer) = .error fault ↔
          stream.close.1 = .error fault := by
        cases stream.close.1 <;> simp [Except.map]
      refine hclose.trans ?_
      constructor
      · exact fun hclosed => .inr ⟨hhead, hstreams, hclosed⟩
      · rintro (hfails | ⟨-, hstreams', hclosed⟩)
        · exact absurd hstreams (hfails.not_streams _)
        · rwa [hstreams'.unique hstreams]
  | failing hfails _ =>
      constructor
      · intro heq
        obtain rfl := Except.error.inj heq
        exact .inl hfails
      · rintro (hfails' | ⟨-, hstreams, -⟩)
        · rw [hfails.unique hfails']
        · exact absurd hstreams (hfails.not_streams _)

end Application

end VersionedAssets
