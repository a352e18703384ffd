import VersionedAssets.Proofs.Application.Replies

/-! # The headers of an application

Every header has one of ten names and is written by one of few: the policy for caches, the handler
that sends a resource, the answers that say what went wrong, the layers with numbers, and whoever
fills in what is missing when a response is sent.
-/

namespace VersionedAssets

namespace Application

/-- A resource without a known media type has to be sent, and is saved under the name. -/
inductive Downloads (app : Application) (request : Request) (host : Host) : String → Prop
  | unknown {handler : Handler} {location : Location} {lastModified : Int}
      {headers : Fields String} {stream : Stream}
      (hreaches : app.Reaches request host handler location)
      (hread : location.lastModified host.files = .ok lastModified)
      (hsends : handler.policy.Sends request lastModified headers)
      (hopen : location.open? host.files = .ok stream)
      (hunknown : MediaTypes.nonEmpty? (handler.mediaTypes.contentType? location.filename) =
        none) : Downloads app request host location.filename

/-- The headers that are written for a request, with their values. -/
inductive Writes (app : Application) (request : Request) (host : Host) : String × String → Prop
  | jsonType : Writes app request host ("Content-Type", "application/json; charset=utf-8")
  | allow : Writes app request host ("Allow", Text.join ", " methods)
  | cacheControl (policy : CachePolicy) :
      Writes app request host ("Cache-Control", policy.control)
  | entityTag (lastModified : Int) :
      Writes app request host ("ETag", CachePolicy.entityTag lastModified)
  | lastModified {lastModified : Int} {date : String}
      (hdate : HttpDate.ofMillis lastModified = .ok date) :
      Writes app request host ("Last-Modified", date)
  | mediaType {handler : Handler} {filename contentType : String} (hmem : handler ∈ app.handlers)
      (hknown : MediaTypes.nonEmpty? (handler.mediaTypes.contentType? filename) =
        some contentType) : Writes app request host ("Content-Type", contentType)
  | downloadType (filename : String) :
      Writes app request host ("Content-Type", MediaTypes.downloadType filename)
  | disposition {filename : String} (hdownloads : app.Downloads request host filename) :
      Writes app request host ("Content-Disposition", Response.disposition filename)
  | requestId (count : Nat) :
      Writes app request host ("X-Request-ID", AccessLog.requestIdOf count)
  | length (n : Nat) : Writes app request host ("Content-Length", toString n)
  | date {now : Int} {date : String} (hdate : HttpDate.ofMillis now = .ok date) :
      Writes app request host ("Date", date)
  | server : Writes app request host ("Server", serverName)

section

variable {app : Application} {request : Request} {host : Host} {world left : World}
  {response : Response}

theorem Writes.name_mem {header : String × String} (hwrites : app.Writes request host header) :
    header.1 ∈ Response.headerNames := by
  cases hwrites <;> simp [Response.headerNames]

theorem filledBy_cacheHeaders (policy : CachePolicy) (lastModified : Int) :
    (policy.cacheHeaders lastModified).FilledBy (app.Writes request host) := by
  have hcontrol : (Fields.empty.put "Cache-Control" policy.control).FilledBy
      (app.Writes request host) := Fields.FilledBy.empty.put (.cacheControl policy)
  exact hcontrol.put (.entityTag lastModified)

theorem filledBy_of_sends {policy : CachePolicy} {lastModified : Int} {headers : Fields String}
    (hsends : policy.Sends request lastModified headers) :
    headers.FilledBy (app.Writes request host) := by
  cases hsends with
  | modified _ hdate => exact (filledBy_cacheHeaders policy lastModified).put (.lastModified hdate)
  | notForReading => exact filledBy_cacheHeaders policy lastModified

/-- The headers that a download is sent with. -/
theorem sentResponse_headers_of_unknown {handler : Handler} {location : Location}
    {lastModified : Int} {headers : Fields String}
    (hsends : handler.policy.Sends request lastModified headers)
    (hunknown : MediaTypes.nonEmpty? (handler.mediaTypes.contentType? location.filename) = none)
    (number : Nat) :
    (handler.sentResponse location headers number).headers =
      (headers.put "Content-Type" (MediaTypes.downloadType location.filename)).put
        "Content-Disposition" (Response.disposition location.filename) := by
  have htype : ({ headers } : Response).header? "Content-Type" = none :=
    hsends.header?_eq_none (by decide +kernel) rfl
  rw [Handler.sentResponse, hunknown]
  exact Sink.downloadOf_headers htype _ _

/-- The name of a download is among its headers. -/
theorem Downloads.exists_gives {filename : String}
    (hdownloads : app.Downloads request host filename) :
    ∃ response opened, app.Gives request host (.ok response) opened ∧
      response.headers.get? "Content-Disposition" = some (Response.disposition filename) := by
  obtain ⟨hreaches, hread, hsends, hopen, hunknown⟩ := hdownloads
  refine ⟨_, _, .sent hreaches hread hsends hopen, ?_⟩
  rw [sentResponse_headers_of_unknown hsends hunknown, Fields.get?_put, if_pos rfl]

theorem Gives.filledBy {opened : List Stream}
    (hgives : app.Gives request host (.ok response) opened) :
    response.headers.FilledBy (app.Writes request host) := by
  cases hgives with
  | unmounted | recovered => exact Fields.FilledBy.empty.put .jsonType
  | notAllowed => exact (Fields.FilledBy.empty.put .allow).put .jsonType
  | refused | unserved | missing => exact .empty
  | spared => exact filledBy_cacheHeaders _ _
  | @sent handler location _ headers _ hreaches hread hsends hopen =>
      have hcaches : headers.FilledBy (app.Writes request host) := filledBy_of_sends hsends
      cases hknown : MediaTypes.nonEmpty? (handler.mediaTypes.contentType? location.filename) with
      | some contentType =>
          rw [Handler.sentResponse, hknown]
          exact hcaches.put (.mediaType hreaches.toRoutes.mem hknown)
      | none =>
          rw [sentResponse_headers_of_unknown hsends hknown]
          exact (hcaches.put (.downloadType _)).put
            (.disposition (.unknown hreaches hread hsends hopen hknown))

/-- The layers add nothing but numbers. -/
theorem Gives.filledBy_numberedBy {opened : List Stream}
    (hgives : app.Gives request host (.ok response) opened) (logs : List AccessLog) (world : World)
    (earlier : Nat) :
    (AccessLog.numberedBy (AccessLog.visits logs world)
      (response.countedAfter earlier)).headers.FilledBy (app.Writes request host) := by
  have hfilled : (response.countedAfter earlier).headers.FilledBy (app.Writes request host) :=
    hgives.filledBy
  unfold AccessLog.numberedBy
  split
  next visit hvisit =>
    obtain ⟨count, hid⟩ := AccessLog.exists_requestId (List.mem_of_find?_eq_some hvisit)
    rw [hid]
    exact hfilled.put (.requestId count)
  next => exact hfilled

/-- The headers of a reply are those of the answer with all that is filled in. -/
theorem exists_sentHeaders_of_reply {reply : Reply}
    (hitems : response.headerItems world.now serverName = .ok reply.headers)
    (hfilled : response.headers.FilledBy (app.Writes request host)) :
    ∃ date, reply.headers = (response.sentHeaders date serverName).entries ∧
      (response.sentHeaders date serverName).FilledBy (app.Writes request host) := by
  obtain ⟨date, hheaders, hdate⟩ := Response.exists_sentHeaders hitems
  exact ⟨date, hheaders,
    Response.filledBy_sentHeaders hfilled .length (fun hundated => .date (hdate hundated)) .server⟩

end

end Application

end VersionedAssets
