import VersionedAssets.Proofs.Application.Alike
import VersionedAssets.Proofs.Application.Replies

/-! # Requests for the head

To handlers, a request for the head is the request for the whole: whatever is answered to one is
answered to the other. The headers are made while the answer still has its stream, so they agree as
well; then the stream is closed, and nobody has read from it.
-/

namespace VersionedAssets

open Actions

namespace Application

/-- Every stream that the stores of the application offer closes without a fault. -/
def ClosesCleanly (app : Application) (host : Host) : Prop :=
  ∀ handler ∈ app.handlers, ∀ path location stream,
    (handler.store.lookup host path).outcome = .ok (some location) →
      location.open? host.files = .ok stream → stream.close.1 = .ok ()

section

variable {app : Application} {host : Host} {world left : World} {first second request : Request}
  {response : Response}

theorem Streams.closes {stream : Stream} (hcloses : app.ClosesCleanly host)
    (hstreams : app.Streams request host stream) : stream.close.1 = .ok () := by
  obtain ⟨hreaches, -, -, hopen⟩ := hstreams
  exact hcloses _ hreaches.mem _ _ _ hreaches.found hopen

/-! ## The same answer -/

/-- Layers of access records pass the same answer on to requests that are the same inside. -/
theorem handleRequest_fst_eq (hlogged : app.IsLogged) (halike : first.AlikeInside second)
    (world : World) : (app.handleRequest second world).1 = (app.handleRequest first world).1 := by
  obtain ⟨logs, hlogs⟩ := hlogged
  obtain ⟨outcome, opened, hgives⟩ := app.exists_gives first (AccessLog.inside logs world).host
  obtain ⟨after, hrun, -⟩ := dispatch_of_gives hgives
  have hrun' := hrun
  rw [← halike.dispatch_eq app] at hrun'
  rw [handleRequest, hlogs]
  cases outcome with
  | error fault =>
      obtain ⟨_, _, hwrap, -⟩ := AccessLog.wrap_of_error logs hrun
      obtain ⟨_, _, hwrap', -⟩ := AccessLog.wrap_of_error logs hrun'
      rw [hwrap, hwrap']
  | ok given =>
      have hlength := hgives.undeclared_countedAfter (AccessLog.inside logs world).streams.length
      obtain ⟨_, _, hwrap, -⟩ := AccessLog.wrap_of_ok logs hlength hrun
      obtain ⟨_, _, hwrap', -⟩ := AccessLog.wrap_of_ok logs hlength hrun'
      rw [hwrap, hwrap']

/-! ## Closing what was opened -/

/-- What is left of an answer when its body is closed: at most one stream was opened for it, which
is closed then. -/
structure ClosesBody (app : Application) (request : Request) (world : World) (response : Response)
    (left : World) (opened : List Stream) : Prop where
  length_le : opened.length ≤ 1
  streams : ∀ stream ∈ opened, app.Streams request world.host stream
  extends_left : world.Extends left opened
  exists_closed : ∃ after, closeBody response left = (.ok (), after) ∧
    world.Extends after (opened.map Stream.closed)

theorem Answers.exists_closesBody (hcloses : app.ClosesCleanly world.host)
    (hanswers : app.Answers request world (.ok response, left)) :
    ∃ opened, app.ClosesBody request world response left opened := by
  cases hanswers with
  | plain hplain hstream _ hleft =>
      refine ⟨[], Nat.zero_le 1, by simp, hleft, left, ?_, hleft⟩
      exact closeBody_of_no_stream hstream left
  | @streaming stream _ _ hstreams howned _ _ hleft =>
      obtain ⟨after, hclose, hafter⟩ := closeBody_of_stream howned hleft
      rw [hstreams.closes hcloses] at hclose
      exact ⟨[stream], Nat.le_refl 1, by simpa using hstreams, hleft, after, hclose, hafter⟩

end

/-! ## The same headers -/

/-- The reply to a request for the head, beside that to one for the whole. Both fail with the same
fault, or status and headers are the same. What was opened is left unread, and closed unless making
the headers failed. -/
inductive Mirrors (world : World) (opened : List Stream) (whole : Except Fault Reply) :
    Except Fault Reply × World → Prop
  | failed {fault : Fault} {left : World} (hwhole : whole = .error fault)
      (hleft : world.Extends left opened) : Mirrors world opened whole (.error fault, left)
  | answered {reply : Reply} {left : World} (hwhole : whole = .ok reply)
      (hleft : world.Extends left (opened.map Stream.closed)) :
      Mirrors world opened whole (.ok { reply with body := none }, left)

section

variable {app : Application} {world left : World} {environ : Environ} {response : Response}
  {headers : List (String × String)} {opened : List Stream}
  (hanswer : app.handleRequest (Request.ofEnviron environ) world = (.ok response, left))
  (hcloses : app.ClosesBody (Request.ofEnviron environ) world response left opened)

include hanswer hcloses

theorem reply_of_undated {fault : Fault}
    (hheaders : response.headerItems world.now serverName = .error fault) :
    app.reply environ world = (.error fault, left) := by
  rw [← hcloses.extends_left.now_eq] at hheaders
  exact reply_of_headers_error hanswer hheaders

/-- Whether there is a body to read or not, the reply has the status and the headers. -/
theorem exists_reply_fst (hheaders : response.headerItems world.now serverName = .ok headers) :
    ∃ body, (app.reply environ world).1 =
      .ok { status := response.status.line, headers, body } := by
  obtain ⟨after, hclosed, -⟩ := hcloses.exists_closed
  rw [← hcloses.extends_left.now_eq] at hheaders
  rw [reply_of_ok hanswer hheaders, hclosed]
  split
  · exact ⟨none, rfl⟩
  · exact ⟨some response, rfl⟩

theorem exists_reply_head (hheaders : response.headerItems world.now serverName = .ok headers)
    (hhead : (Request.ofEnviron environ).isHead = true) :
    ∃ after, world.Extends after (opened.map Stream.closed) ∧ app.reply environ world =
      (.ok { status := response.status.line, headers, body := none }, after) := by
  obtain ⟨after, hclosed, hafter⟩ := hcloses.exists_closed
  rw [← hcloses.extends_left.now_eq] at hheaders
  rw [reply_of_ok hanswer hheaders, hhead, hclosed]
  exact ⟨after, hafter, rfl⟩

end

/-- Setting the method to that for the head leaves the request the same to handlers. -/
theorem alikeInside_withMethod (environ : Environ) :
    (Request.ofEnviron (environ.withMethod "GET")).AlikeInside
      (Request.ofEnviron (environ.withMethod "HEAD")) := by
  have hget : Text.upper "GET" = "GET" := by decide +kernel
  have hhead : Text.upper "HEAD" = "HEAD" := by decide +kernel
  rw [environ.ofEnviron_withMethod, environ.ofEnviron_withMethod, hget, hhead]
  exact ⟨rfl, rfl, rfl, rfl, fun _ _ => rfl⟩

theorem isHead_withMethod (environ : Environ) :
    (Request.ofEnviron (environ.withMethod "HEAD")).isHead = true := by
  rw [environ.ofEnviron_withMethod]
  exact (by decide +kernel : (Text.upper "HEAD" == "HEAD") = true)

/-- A request for the head is answered like that for the whole, with the same status and the same
headers, but without a body. -/
theorem reply_head_mirrors {app : Application} (hlogged : app.IsLogged) {world : World}
    (hcloses : app.ClosesCleanly world.host) (environ : Environ) :
    ∃ opened : List Stream, opened.length ≤ 1 ∧
      (∀ stream ∈ opened,
        app.Streams (Request.ofEnviron (environ.withMethod "HEAD")) world.host stream) ∧
      Mirrors world opened (app.reply (environ.withMethod "GET") world).1
        (app.reply (environ.withMethod "HEAD") world) := by
  have hsame := handleRequest_fst_eq hlogged (alikeInside_withMethod environ) world
  have hwholeAnswers :=
    answers_handleRequest hlogged (Request.ofEnviron (environ.withMethod "GET")) world
  have hheadAnswers :=
    answers_handleRequest hlogged (Request.ofEnviron (environ.withMethod "HEAD")) world
  rcases hwhole : app.handleRequest (Request.ofEnviron (environ.withMethod "GET")) world with
    ⟨outcome, wholeLeft⟩
  rcases hhead : app.handleRequest (Request.ofEnviron (environ.withMethod "HEAD")) world with
    ⟨outcome', headLeft⟩
  rw [hwhole] at hwholeAnswers hsame
  rw [hhead] at hheadAnswers hsame
  obtain rfl : outcome' = outcome := hsame
  cases outcome' with
  | error fault =>
      cases hheadAnswers with
      | failing _ hleft =>
          refine ⟨[], Nat.zero_le 1, by simp, ?_⟩
          rw [reply_of_error hwhole, reply_of_error hhead]
          exact .failed rfl hleft
  | ok response =>
      obtain ⟨_, hwholeCloses⟩ := hwholeAnswers.exists_closesBody hcloses
      obtain ⟨opened, hheadCloses⟩ := hheadAnswers.exists_closesBody hcloses
      refine ⟨opened, hheadCloses.length_le, hheadCloses.streams, ?_⟩
      -- the headers are made from the same answer and at the same time
      cases hheaders : response.headerItems world.now serverName with
      | error fault =>
          rw [reply_of_undated hwhole hwholeCloses hheaders,
            reply_of_undated hhead hheadCloses hheaders]
          exact .failed rfl hheadCloses.extends_left
      | ok headers =>
          obtain ⟨body, hreply⟩ := exists_reply_fst hwhole hwholeCloses hheaders
          obtain ⟨after, hafter, hmirror⟩ :=
            exists_reply_head hhead hheadCloses hheaders (isHead_withMethod environ)
          rw [hreply, hmirror]
          exact .answered rfl hafter

/-- The script of a faulty store: no read of it succeeds. -/
def unreadable : Location where
  uri := "memory:x.js"
  filename := "x.js"
  modified _ := .ok (.whole 5)
  content _ := .ok { rest := [120], failingReads := [1, 2] }

/-- Two layers before a store whose stream cannot be read: the head is that of the whole, and nobody
noticed. -/
theorem reply_head_mirrors_unreadable :
    let app : Application :=
      { handlers := [.ofStore "" { name := "store", lookup := fun _ _ => .silent (.ok unreadable) }]
        layers := [AccessLog.toMiddleware {}, AccessLog.toMiddleware { format := .json }] }
    let environ : Environ := ⟨[("PATH_INFO", "/x.js")]⟩
    app.ClosesCleanly {} ∧
      ((app.reply (environ.withMethod "HEAD") {}).1.map fun reply =>
          (reply.status, reply.body.isSome)) = .ok ("200 OK", false) ∧
      ((app.reply (environ.withMethod "GET") {}).1.map fun reply =>
          (reply.status, reply.body.isSome)) = .ok ("200 OK", true) ∧
      ((app.reply (environ.withMethod "HEAD") {}).1.map (·.headers)) =
        ((app.reply (environ.withMethod "GET") {}).1.map (·.headers)) ∧
      (app.reply (environ.withMethod "HEAD") {}).2.streams =
        [{ rest := [120], failingReads := [1, 2], isClosed := true }] := by
  intro app environ
  have hlogged : app.IsLogged := ⟨[{}, { format := .json }], rfl⟩
  have hcloses : app.ClosesCleanly {} := by
    intro handler hmem path location stream hfound hopen
    obtain rfl := List.mem_singleton.mp hmem
    obtain rfl : unreadable = location := Option.some.inj (Except.ok.inj hfound)
    obtain rfl := Except.ok.inj hopen
    rfl
  obtain ⟨opened, -, -, hmirrors⟩ := @reply_head_mirrors app hlogged {} hcloses environ
  have hheaders : (app.reply (environ.withMethod "HEAD") {}).1.map (·.headers) =
      (app.reply (environ.withMethod "GET") {}).1.map (·.headers) := by
    generalize app.reply (environ.withMethod "HEAD") {} = run at hmirrors ⊢
    cases hmirrors with
    | failed hwhole _ => rw [hwhole]
    | answered hwhole _ =>
        rw [hwhole]
        rfl
  exact ⟨hcloses, by decide +kernel, by decide +kernel, hheaders, by decide +kernel⟩

end Application

end VersionedAssets
