import VersionedAssets.Application
import VersionedAssets.Proofs.Handler.Endings
import VersionedAssets.Proofs.Middleware

/-! # What a request comes to

Inside of its layers an application answers as the host decides: each request has one outcome, and
the same streams are opened for it whatever was answered before. Only the number of the stream that
an answer owns counts the earlier ones.
-/

namespace VersionedAssets

open Actions Handling ResourcePath VersionToken

namespace Handler

variable {handler : Handler} {request : Request} {world : World}

/-- What answering a request fails with: a fault of the store, or a fault of the location under the
name of streaming. -/
inductive Faults (handler : Handler) (request : Request) (host : Host) : Fault → Prop
  | store {fault : Fault} (hguarded : Guarded (handler.requestedPath request))
      (hfound : (handler.store.lookup host (remove (handler.requestedPath request))).outcome =
        .error fault) : Faults handler request host fault
  | location {location : Location} {cause : Fault}
      (hguarded : Guarded (handler.requestedPath request))
      (hfound : (handler.store.lookup host (remove (handler.requestedPath request))).outcome =
        .ok (some location))
      (hbreaks : handler.Breaks request location host.files cause) :
      Faults handler request host (streamFault location cause)

theorem Faults.leaves {fault : Fault} (hfaults : handler.Faults request world.host fault) :
    ∃ (headers : Fields String) (asked : List String),
      handler.Leaves world (handler.handle request { world }) (.error fault) { headers } asked
        [] := by
  cases hfaults with
  | store hguarded hfound =>
      exact ⟨_, _, leaves_of_unanswered (requests_iff.mpr rfl) hguarded hfound⟩
  | location hguarded hfound hbreaks =>
      obtain ⟨headers, hleaves⟩ :=
        leaves_of_breaks (requests_iff.mpr rfl) hguarded hfound hbreaks
      exact ⟨headers, _, hleaves⟩

theorem Leaves.extends {run : Run} {outcome : Except Fault Unit} {response : Response}
    {asked : List String} {opened : List Stream}
    (hleaves : handler.Leaves world run outcome response asked opened) :
    world.Extends run.2.world opened := by
  obtain ⟨journal, rfl⟩ := hleaves
  exact ⟨rfl, rfl, rfl⟩

theorem sentResponse_stream (handler : Handler) (location : Location) (headers : Fields String)
    (number : Nat) : (handler.sentResponse location headers number).stream = some number := by
  unfold sentResponse
  split
  · rfl
  · exact Sink.downloadOf_stream _ _ _

theorem sentResponse_countedAfter (handler : Handler) (location : Location)
    (headers : Fields String) (number earlier : Nat) :
    (handler.sentResponse location headers number).countedAfter earlier =
      handler.sentResponse location headers (earlier + number) := by
  unfold sentResponse
  split
  · rfl
  · -- whether there is a type already does not depend on the stream
    have htyped (number : Nat) :
        ({ headers, stream := some number, filename := some location.filename } :
            Response).header? "Content-Type" =
          ({ headers } : Response).header? "Content-Type" := rfl
    simp only [Sink.downloadOf, htyped]
    split <;> rfl

end Handler

namespace Application

/-- The request goes to the handler, and it is one for reading. -/
structure Routes (app : Application) (request : Request) (handler : Handler) : Prop where
  routed : app.findHandler? request.path = some handler
  readable : request.method ∈ methods

/-- The request goes to the handler, whose store has the location for it. -/
structure Reaches (app : Application) (request : Request) (host : Host) (handler : Handler)
    (location : Location) : Prop extends Routes app request handler where
  guarded : Guarded (handler.requestedPath request)
  found : (handler.store.lookup host (remove (handler.requestedPath request))).outcome =
    .ok (some location)

/-- What a request comes to, and the streams that are opened for it. The stream that an answer owns
is counted among those. -/
inductive Gives (app : Application) (request : Request) (host : Host) :
    Except Fault Response → List Stream → Prop
  | unmounted (hrouted : app.findHandler? request.path = none) :
      Gives app request host
        (.ok (Response.notFound s!"No resource handler for {request.path}")) []
  | notAllowed {handler : Handler} (hrouted : app.findHandler? request.path = some handler)
      (hmethod : request.method ∉ methods) :
      Gives app request host (.ok (Response.methodNotAllowed methods)) []
  | refused {handler : Handler} (hroutes : app.Routes request handler)
      (hrefused : segments? (handler.requestedPath request) = none) :
      Gives app request host (.ok { status := .forbidden, committed := true }) []
  | unserved {handler : Handler} (hroutes : app.Routes request handler)
      (hsafe : segments? (handler.requestedPath request) ≠ none)
      (hdirectory : handler.requestedPath request = "" ∨
        Text.endsWith (handler.requestedPath request) "/" = true) :
      Gives app request host (.ok { status := .notFound, committed := true }) []
  | missing {handler : Handler} (hroutes : app.Routes request handler)
      (hguarded : Guarded (handler.requestedPath request))
      (hfound : (handler.store.lookup host (remove (handler.requestedPath request))).outcome =
        .ok none) :
      Gives app request host (.ok { status := .notFound, committed := true }) []
  | spared {handler : Handler} {location : Location} {lastModified : Int}
      (hreaches : app.Reaches request host handler location)
      (hread : location.lastModified host.files = .ok lastModified)
      (hspares : CachePolicy.Spares request lastModified) :
      Gives app request host
        (.ok { status := .notModified, headers := handler.policy.cacheHeaders lastModified
               committed := true }) []
  | sent {handler : Handler} {location : Location} {lastModified : Int} {headers : Fields String}
      {stream : Stream} (hreaches : app.Reaches request host handler location)
      (hread : location.lastModified host.files = .ok lastModified)
      (hsends : handler.policy.Sends request lastModified headers)
      (hopen : location.open? host.files = .ok stream) :
      Gives app request host (.ok (handler.sentResponse location headers 0)) [stream]
  | recovered {handler : Handler} {cause : ResourceFault} (hroutes : app.Routes request handler)
      (hfaults : handler.Faults request host (.resource cause)) :
      Gives app request host (.ok (Response.internalError "Internal Server Error")) []
  | raised {handler : Handler} {fault : Fault} (hroutes : app.Routes request handler)
      (hfaults : handler.Faults request host fault) (hother : ∀ cause, fault ≠ .resource cause) :
      Gives app request host (.error fault) []

section

variable {app : Application} {request : Request} {host : Host} {world : World} {handler : Handler}

/-! ## Serving by a handler -/

theorem serveBy_of_ok {response : Response} {asked : List String} {opened : List Stream}
    (hleaves : handler.Leaves world (handler.handle request { world }) (.ok ()) response asked
      opened) :
    ∃ left, serveBy handler request world = (.ok response, left) ∧ world.Extends left opened := by
  have hextends := hleaves.extends
  obtain ⟨journal, hrun⟩ := hleaves
  rw [hrun] at hextends
  rw [serveBy, hrun]
  exact ⟨_, rfl, hextends⟩

theorem closeBody_of_no_stream {response : Response} (hstream : response.stream = none)
    (world : World) : closeBody response world = (.ok (), world) := by
  rw [closeBody, Serving.onResponse, Sink.release_of_no_stream hstream]

theorem recover_of_resource {response : Response} (hstream : response.stream = none)
    (cause : ResourceFault) (request : Request) (world : World) :
    ∃ left, recover request response (.resource cause) world =
        (.ok (Response.internalError "Internal Server Error"), left) ∧ world.Extends left [] := by
  refine ⟨world.note (failureRecord request (.resource cause)), ?_, .note world _⟩
  -- the release is written out here as it is when a body is closed
  exact bind_of_ok (closeBody_of_no_stream hstream world)

/-- A fault of a resource becomes an answer. Handlers that fail leave no stream to close. -/
theorem serveBy_of_resource {cause : ResourceFault} {headers : Fields String}
    {asked : List String}
    (hleaves : handler.Leaves world (handler.handle request { world })
      (.error (.resource cause)) { headers } asked []) :
    ∃ left, serveBy handler request world =
        (.ok (Response.internalError "Internal Server Error"), left) ∧ world.Extends left [] := by
  have hextends := hleaves.extends
  obtain ⟨journal, hrun⟩ := hleaves
  rw [hrun] at hextends
  rw [serveBy, hrun]
  obtain ⟨left, hrecover, hleft⟩ :=
    recover_of_resource (rfl : ({ headers } : Response).stream = none) cause request _
  exact ⟨left, hrecover, hextends.after hleft⟩

theorem serveBy_of_other {fault : Fault} {response : Response} {asked : List String}
    {opened : List Stream}
    (hleaves : handler.Leaves world (handler.handle request { world }) (.error fault) response
      asked opened) (hother : ∀ cause, fault ≠ .resource cause) :
    ∃ left, serveBy handler request world = (.error fault, left) ∧
      world.Extends left opened := by
  have hextends := hleaves.extends
  obtain ⟨journal, hrun⟩ := hleaves
  rw [hrun] at hextends
  rw [serveBy, hrun]
  refine ⟨_, ?_, hextends⟩
  cases fault with
  | resource cause => exact absurd rfl (hother cause)
  | _ => rfl

theorem dispatch_of_routes (hroutes : app.Routes request handler) :
    app.dispatch request = serveBy handler request := by
  simp [dispatch, hroutes.routed, hroutes.readable]

/-! ## One outcome for each request -/

theorem exists_gives_of_faults {fault : Fault} (hroutes : app.Routes request handler)
    (hfaults : handler.Faults request host fault) :
    ∃ outcome opened, app.Gives request host outcome opened := by
  by_cases hresource : ∃ cause, fault = .resource cause
  · obtain ⟨cause, rfl⟩ := hresource
    exact ⟨_, _, .recovered hroutes hfaults⟩
  · exact ⟨_, _, .raised hroutes hfaults fun cause heq => hresource ⟨cause, heq⟩⟩

theorem exists_gives (app : Application) (request : Request) (host : Host) :
    ∃ outcome opened, app.Gives request host outcome opened := by
  cases hrouted : app.findHandler? request.path with
  | none => exact ⟨_, _, .unmounted hrouted⟩
  | some handler =>
      by_cases hmethod : request.method ∈ methods
      · have hroutes : app.Routes request handler := ⟨hrouted, hmethod⟩
        have hrequests : handler.Requests request (handler.requestedPath request) :=
          Handler.requests_iff.mpr rfl
        cases Handler.ends_of_requests hrequests { host } with
        | refused hrefused _ => exact ⟨_, _, .refused hroutes hrefused⟩
        | unserved hsafe hdirectory _ => exact ⟨_, _, .unserved hroutes hsafe hdirectory⟩
        | missing hguarded hfound _ => exact ⟨_, _, .missing hroutes hguarded hfound⟩
        | spared hguarded hfound hread hspares _ =>
            exact ⟨_, _, .spared ⟨hroutes, hguarded, hfound⟩ hread hspares⟩
        | sent hguarded hfound hread hsends hopen _ =>
            exact ⟨_, _, .sent ⟨hroutes, hguarded, hfound⟩ hread hsends hopen⟩
        | unanswered hguarded hfound _ =>
            exact exists_gives_of_faults hroutes (.store hguarded hfound)
        | broken hguarded hfound hbreaks _ =>
            exact exists_gives_of_faults hroutes (.location hguarded hfound hbreaks)
      · exact ⟨_, _, .notAllowed hrouted hmethod⟩

/-- Whatever was answered before, the request comes to this. -/
theorem dispatch_of_gives {outcome : Except Fault Response} {opened : List Stream}
    (hgives : app.Gives request world.host outcome opened) :
    ∃ left, app.dispatch request world =
        (outcome.map (Response.countedAfter world.streams.length), left) ∧
      world.Extends left opened := by
  cases hgives with
  | unmounted hrouted =>
      refine ⟨world, ?_, .refl world⟩
      rw [dispatch, hrouted]
      rfl
  | notAllowed hrouted hmethod =>
      refine ⟨world, ?_, .refl world⟩
      have hcontains : methods.contains request.method = false := by
        rwa [← Bool.not_eq_true, List.contains_iff_mem]
      simp only [dispatch, hrouted, hcontains]
      rfl
  | refused hroutes hrefused =>
      rw [dispatch_of_routes hroutes]
      exact serveBy_of_ok (Handler.leaves_of_refused (Handler.requests_iff.mpr rfl) hrefused world)
  | unserved hroutes hsafe hdirectory =>
      rw [dispatch_of_routes hroutes]
      exact serveBy_of_ok
        (Handler.leaves_of_unserved (Handler.requests_iff.mpr rfl) hsafe hdirectory world)
  | missing hroutes hguarded hfound =>
      rw [dispatch_of_routes hroutes]
      exact serveBy_of_ok
        (Handler.leaves_of_missing (Handler.requests_iff.mpr rfl) hguarded hfound)
  | spared hreaches hread hspares =>
      rw [dispatch_of_routes hreaches.toRoutes]
      exact serveBy_of_ok (Handler.leaves_of_spares (Handler.requests_iff.mpr rfl)
        hreaches.guarded hreaches.found hread hspares)
  | sent hreaches hread hsends hopen =>
      rw [dispatch_of_routes hreaches.toRoutes, Except.map, Handler.sentResponse_countedAfter]
      exact serveBy_of_ok (Handler.leaves_of_sends (Handler.requests_iff.mpr rfl)
        hreaches.guarded hreaches.found hread hsends hopen)
  | recovered hroutes hfaults =>
      rw [dispatch_of_routes hroutes]
      obtain ⟨headers, asked, hleaves⟩ := hfaults.leaves
      exact serveBy_of_resource hleaves
  | raised hroutes hfaults hother =>
      rw [dispatch_of_routes hroutes]
      obtain ⟨headers, asked, hleaves⟩ := hfaults.leaves
      exact serveBy_of_other hleaves hother

namespace Gives

variable {outcome : Except Fault Response} {response : Response} {opened : List Stream}

/-- There is no other outcome. -/
theorem unique {outcome' : Except Fault Response} {opened' : List Stream}
    (hgives : app.Gives request host outcome opened)
    (hother : app.Gives request host outcome' opened') : outcome' = outcome ∧ opened' = opened := by
  have hzero (outcome : Except Fault Response) :
      outcome.map (Response.countedAfter ([] : List Stream).length) = outcome := by
    cases outcome with
    | error fault => rfl
    | ok response => exact congrArg Except.ok response.countedAfter_zero
  obtain ⟨left, hrun, hleft⟩ := @dispatch_of_gives _ _ { host } _ _ hgives
  obtain ⟨left', hrun', hleft'⟩ := @dispatch_of_gives _ _ { host } _ _ hother
  rw [hrun, hzero, hzero] at hrun'
  obtain ⟨rfl, rfl⟩ := Prod.mk.inj hrun'
  exact ⟨rfl, hleft'.streams_eq.symm.trans hleft.streams_eq⟩

end Gives

end

end Application

end VersionedAssets
