import VersionedAssets.Proofs.AccessLog
import VersionedAssets.Proofs.Application.Outcomes

/-! # What requests come to

A request ends in one of three ways, which depend on the host and on nothing else outside of it: a
fault goes to the server, a resource is sent, or there is an answer without a stream. Nothing can
fail once a stream was opened. Layers that write access records do not change which way it is.
-/

namespace VersionedAssets

open Actions Handling ResourcePath VersionToken

/-! ## Answers of handlers -/

namespace Response

theorem undeclared_fresh (status : Status) (committed : Bool) :
    ({ status, committed } : Response).Undeclared := rfl

theorem contentType_ne_contentLength :
    Text.lower "Content-Type" ≠ Text.lower "Content-Length" := by
  decide +kernel

theorem undeclared_ofError (status : Status) (message : String) :
    (ofError status message).Undeclared := by
  have htyped := (undeclared_fresh status false).assignHeader contentType_ne_contentLength
    "application/json; charset=utf-8"
  exact htyped.congr rfl

theorem undeclared_methodNotAllowed (allowed : List String) :
    (methodNotAllowed allowed).Undeclared := by
  have hallow := (undeclared_fresh .methodNotAllowed false).assignHeader
    (by decide +kernel : Text.lower "Allow" ≠ Text.lower "Content-Length") (Text.join ", " allowed)
  have htyped := hallow.assignHeader contentType_ne_contentLength
    "application/json; charset=utf-8"
  exact htyped.congr rfl

end Response

namespace Handler

variable {handler : Handler} {request : Request}

theorem undeclared_cacheHeaders (policy : CachePolicy) (lastModified : Int) :
    ({ headers := policy.cacheHeaders lastModified } : Response).Undeclared := by
  have hcontrol := (Response.undeclared_fresh .ok false).assignHeader
    (by decide +kernel : Text.lower "Cache-Control" ≠ Text.lower "Content-Length") policy.control
  exact hcontrol.assignHeader
    (by decide +kernel : Text.lower "ETag" ≠ Text.lower "Content-Length")
    (CachePolicy.entityTag lastModified)

theorem undeclared_sentResponse {lastModified : Int} {headers : Fields String}
    (hsends : handler.policy.Sends request lastModified headers) (location : Location)
    (number : Nat) : (handler.sentResponse location headers number).Undeclared := by
  have hcaches : ({ headers } : Response).Undeclared :=
    hsends.header?_eq_none (by decide +kernel) rfl
  have hdisposition : Text.lower "Content-Disposition" ≠ Text.lower "Content-Length" := by
    decide +kernel
  unfold sentResponse
  split
  next contentType _ =>
    exact (hcaches.assignHeader Response.contentType_ne_contentLength contentType).congr rfl
  next =>
    refine Response.Undeclared.congr (?_ : (Sink.downloadOf { headers } _ number).Undeclared) rfl
    unfold Sink.downloadOf
    dsimp only
    refine Response.Undeclared.assignHeader ?_ hdisposition _
    split
    · exact hcaches.congr rfl
    · exact (hcaches.congr rfl).assignHeader Response.contentType_ne_contentLength _

end Handler

/-! ## The three ways -/

namespace Application

/-- The resource of the request has to be sent, and opening it gives the stream. -/
inductive Streams (app : Application) (request : Request) (host : Host) (stream : Stream) : Prop
  | sent {handler : Handler} {location : Location} {lastModified : Int} {headers : Fields String}
      (hreaches : app.Reaches request host handler location)
      (hread : location.lastModified host.files = .ok lastModified)
      (hsends : handler.policy.Sends request lastModified headers)
      (hopen : location.open? host.files = .ok stream)

/-- The fault goes to the server: it is one of the handler, and not one of a resource. -/
inductive Fails (app : Application) (request : Request) (host : Host) (fault : Fault) : Prop
  | raised {handler : Handler} (hroutes : app.Routes request handler)
      (hfaults : handler.Faults request host fault) (hother : ∀ cause, fault ≠ .resource cause)

/-- Nothing is sent and nothing goes wrong but what the application answers itself. -/
structure IsPlain (app : Application) (request : Request) (host : Host) : Prop where
  not_fails : ∀ fault, ¬ app.Fails request host fault
  not_streams : ∀ stream, ¬ app.Streams request host stream

/-- What a request comes to. -/
inductive Answers (app : Application) (request : Request) (world : World) :
    Except Fault Response × World → Prop
  | plain {response : Response} {left : World} (hplain : app.IsPlain request world.host)
      (hstream : response.stream = none) (hlength : response.Undeclared)
      (hleft : world.Extends left []) : Answers app request world (.ok response, left)
  | streaming {stream : Stream} {response : Response} {left : World}
      (hstreams : app.Streams request world.host stream)
      (hstream : response.stream = some world.streams.length) (hstatus : response.status = .ok)
      (hlength : response.Undeclared) (hleft : world.Extends left [stream]) :
      Answers app request world (.ok response, left)
  | failing {fault : Fault} {left : World} (hfails : app.Fails request world.host fault)
      (hleft : world.Extends left []) : Answers app request world (.error fault, left)

section

variable {app : Application} {request : Request} {host : Host} {world : World} {handler : Handler}

theorem Routes.mem (hroutes : app.Routes request handler) : handler ∈ app.handlers :=
  List.mem_of_find?_eq_some hroutes.routed

theorem Fails.gives {fault : Fault} (hfails : app.Fails request host fault) :
    app.Gives request host (.error fault) [] := by
  obtain ⟨hroutes, hfaults, hother⟩ := hfails
  exact .raised hroutes hfaults hother

theorem Streams.exists_gives {stream : Stream} (hstreams : app.Streams request host stream) :
    ∃ response, app.Gives request host (.ok response) [stream] := by
  obtain ⟨hreaches, hread, hsends, hopen⟩ := hstreams
  exact ⟨_, .sent hreaches hread hsends hopen⟩

theorem Fails.unique {fault other : Fault} (hfails : app.Fails request host fault)
    (hother : app.Fails request host other) : other = fault :=
  Except.error.inj (hfails.gives.unique hother.gives).1

/-- Nothing is sent when a request fails. -/
theorem Fails.not_streams {fault : Fault} (hfails : app.Fails request host fault)
    (stream : Stream) : ¬ app.Streams request host stream := by
  intro hstreams
  obtain ⟨response, hgives⟩ := hstreams.exists_gives
  cases (hfails.gives.unique hgives).1

theorem Streams.unique {stream other : Stream} (hstreams : app.Streams request host stream)
    (hother : app.Streams request host other) : other = stream := by
  obtain ⟨response, hgives⟩ := hstreams.exists_gives
  obtain ⟨response', hgives'⟩ := hother.exists_gives
  exact List.singleton_inj.mp (hgives.unique hgives').2

namespace Gives

variable {response : Response} {opened : List Stream}

/-- An answer for which nothing was opened is one without a stream; any other is a resource that is
sent, and owns what was opened for it. -/
theorem plain_or_sent (hgives : app.Gives request host (.ok response) opened) :
    opened = [] ∧ response.stream = none ∨
      ∃ stream, opened = [stream] ∧ app.Streams request host stream ∧
        response.stream = some 0 ∧ response.status = .ok := by
  cases hgives with
  | sent hreaches hread hsends hopen =>
      exact .inr ⟨_, rfl, .sent hreaches hread hsends hopen, Handler.sentResponse_stream _ _ _ _,
        Handler.sentResponse_status _ _ _ _⟩
  | _ => exact .inl ⟨rfl, rfl⟩

/-- Only a client that has the resource is sent an answer whose status has no body. -/
theorem bodiless (hgives : app.Gives request host (.ok response) opened)
    (hbody : response.status.allowsBody = false) :
    response.status = .notModified ∧ response.stream = none ∧ response.body = [] := by
  cases hgives with
  | spared => exact ⟨rfl, rfl, rfl⟩
  | sent =>
      rw [Handler.sentResponse_status] at hbody
      cases hbody
  | _ => cases hbody

theorem undeclared (hgives : app.Gives request host (.ok response) opened) :
    response.Undeclared := by
  cases hgives with
  | unmounted | recovered => exact Response.undeclared_ofError _ _
  | notAllowed => exact Response.undeclared_methodNotAllowed _
  | refused | unserved | missing => exact Response.undeclared_fresh _ _
  | @spared handler _ lastModified =>
      exact (Handler.undeclared_cacheHeaders handler.policy lastModified).congr rfl
  | sent _ _ hsends _ => exact Handler.undeclared_sentResponse hsends _ _

theorem undeclared_countedAfter (hgives : app.Gives request host (.ok response) opened)
    (earlier : Nat) : (response.countedAfter earlier).Undeclared := hgives.undeclared.congr rfl

/-- Layers with numbers do not write the length either. -/
theorem undeclared_numberedBy (hgives : app.Gives request host (.ok response) opened)
    (visits : List Visit) (earlier : Nat) :
    (AccessLog.numberedBy visits (response.countedAfter earlier)).Undeclared :=
  AccessLog.undeclared_numberedBy visits (hgives.undeclared_countedAfter earlier)

theorem isPlain (hgives : app.Gives request host (.ok response) []) :
    app.IsPlain request host := by
  constructor
  · intro fault hfails
    cases (hfails.gives.unique hgives).1
  · intro stream hstreams
    obtain ⟨_, hother⟩ := hstreams.exists_gives
    cases (hother.unique hgives).2

end Gives

/-! ## Layers -/

/-- The layers of the application write access records, each in its own way. -/
def IsLogged (app : Application) : Prop :=
  ∃ logs : List AccessLog, app.chain.getD app.layers = logs.map AccessLog.toMiddleware

/-- What leaves the layers is what came to them from within, with one number. What they do on the
way in and out leaves the host and the streams as they were. -/
theorem handleRequest_of_gives {logs : List AccessLog}
    (hlogs : app.chain.getD app.layers = logs.map AccessLog.toMiddleware)
    {outcome : Except Fault Response} {opened : List Stream}
    (hgives : app.Gives request world.host outcome opened) :
    ∃ left, app.handleRequest request world =
        (outcome.map fun given => AccessLog.numberedBy (AccessLog.visits logs world)
          (given.countedAfter world.streams.length), left) ∧
      world.Extends left opened := by
  have hinside := AccessLog.extends_inside logs world
  rw [← hinside.host_eq] at hgives
  obtain ⟨after, hrun, hafter⟩ := dispatch_of_gives hgives
  rw [hinside.streams_eq, List.append_nil] at hrun
  rw [handleRequest, hlogs]
  cases outcome with
  | error fault =>
      obtain ⟨left, _, hwrap, hemits, -⟩ := AccessLog.wrap_of_error logs hrun
      exact ⟨left, hwrap, hinside.before (hafter.after hemits.extends_nil)⟩
  | ok given =>
      have hlength := hgives.undeclared_countedAfter world.streams.length
      obtain ⟨left, _, hwrap, hemits, -⟩ := AccessLog.wrap_of_ok logs hlength hrun
      exact ⟨left, hwrap, hinside.before (hafter.after hemits.extends_nil)⟩

/-- An answer that leaves the layers came to them from within. -/
theorem exists_gives_of_handleRequest (hlogged : app.IsLogged) {response : Response} {left : World}
    (hanswer : app.handleRequest request world = (.ok response, left)) :
    ∃ logs given opened, app.Gives request world.host (.ok given) opened ∧
      response = AccessLog.numberedBy (AccessLog.visits logs world)
        (given.countedAfter world.streams.length) := by
  obtain ⟨logs, hlogs⟩ := hlogged
  obtain ⟨outcome, opened, hgives⟩ := app.exists_gives request world.host
  obtain ⟨_, hrun, -⟩ := handleRequest_of_gives hlogs hgives
  rw [hanswer] at hrun
  cases outcome with
  | error fault => cases hrun
  | ok given => exact ⟨logs, given, opened, hgives, Except.ok.inj (Prod.mk.inj hrun).1⟩

/-- Requests keep to the three ways, through however many layers they go. -/
theorem answers_handleRequest (hlogged : app.IsLogged) (request : Request) (world : World) :
    app.Answers request world (app.handleRequest request world) := by
  obtain ⟨logs, hlogs⟩ := hlogged
  obtain ⟨outcome, opened, hgives⟩ := app.exists_gives request world.host
  obtain ⟨left, hrun, hleft⟩ := handleRequest_of_gives hlogs hgives
  rw [hrun]
  cases outcome with
  | error fault =>
      cases hgives with
      | raised hroutes hfaults hother => exact .failing ⟨hroutes, hfaults, hother⟩ hleft
  | ok given =>
      have hlength := hgives.undeclared_numberedBy (AccessLog.visits logs world)
        world.streams.length
      rcases hgives.plain_or_sent with
        ⟨rfl, hstream⟩ | ⟨stream, rfl, hstreams, hstream, hstatus⟩
      · refine .plain hgives.isPlain ?_ hlength hleft
        simp [Response.countedAfter, hstream]
      · refine .streaming hstreams ?_ ?_ hlength hleft
        · simp [Response.countedAfter, hstream]
        · simpa [Response.countedAfter] using hstatus

end

end Application

end VersionedAssets
