import VersionedAssets.Proofs.CachePolicy
import VersionedAssets.Proofs.Handler.Lookups
import VersionedAssets.Proofs.MediaType

/-! # Answers into a fresh response

What each way of answering makes of a response that nothing was written to. An answer either is
committed or leaves the response open and without a stream: nothing can fail after a stream was
opened.
-/

namespace VersionedAssets.Handler

open Actions Handling ResourcePath VersionToken

theorem answer_eq (status : Status) (world : World) :
    answer status { world } = (.ok (), { response := { status, committed := true }, world }) := by
  rw [answer, bind_of_ok (write_of_ok (Sink.setStatus_of_open rfl _)),
    write_of_ok (Sink.commit_of_open rfl (.inl rfl))]
  simp [Sink.committedOf]

/-! ## Sending a location -/

/-- The response that a location is sent with. -/
def sentResponse (handler : Handler) (location : Location) (headers : Fields String)
    (number : Nat) : Response :=
  match MediaTypes.nonEmpty? (handler.mediaTypes.contentType? location.filename) with
  | some contentType =>
    { headers := headers.put "Content-Type" contentType, stream := some number, committed := true }
  | none =>
    Sink.committedOf (Sink.downloadOf { headers } location.filename number)

theorem sentResponse_committed (handler : Handler) (location : Location) (headers : Fields String)
    (number : Nat) : (handler.sentResponse location headers number).committed = true := by
  unfold sentResponse
  split <;> rfl

theorem sentResponse_status (handler : Handler) (location : Location) (headers : Fields String)
    (number : Nat) : (handler.sentResponse location headers number).status = .ok := by
  unfold sentResponse
  split
  · rfl
  · simp [Sink.committedOf]

/-- The response owns the stream. It is shown in place with the type of the registry if that knows
the name of the location, else saved under that name. -/
def Carries (handler : Handler) (location : Location) (number : Nat) (response : Response) : Prop :=
  response.stream = some number ∧
    match handler.mediaTypes.contentType? location.filename with
    | some contentType =>
      response.headers.get? "Content-Type" = some contentType ∧
        response.headers.get? "Content-Disposition" = none ∧ response.filename = none
    | none =>
      response.headers.get? "Content-Type" = some "application/octet-stream" ∧
        response.headers.get? "Content-Disposition" =
            some (Response.disposition location.filename) ∧
          response.filename = some location.filename

theorem carries_sentResponse {handler : Handler} (hbuilt : handler.mediaTypes.IsBuilt)
    {request : Request} {lastModified : Int} {headers : Fields String}
    (hsends : handler.policy.Sends request lastModified headers) (location : Location)
    (number : Nat) :
    handler.Carries location number (handler.sentResponse location headers number) := by
  rw [Carries, sentResponse, MediaTypes.nonEmpty?_contentType? hbuilt]
  cases hknown : handler.mediaTypes.contentType? location.filename with
  | some contentType =>
      refine ⟨rfl, by simp [Fields.get?_put], ?_, rfl⟩
      dsimp only
      rw [Fields.get?_put, if_neg (by decide)]
      exact hsends.get?_eq_none (by decide)
  | none =>
      have htype : ({ headers } : Response).header? "Content-Type" = none :=
        hsends.header?_eq_none (by decide +kernel) rfl
      refine ⟨Sink.downloadOf_stream _ _ _, ?_, ?_, Sink.downloadOf_filename _ _ _⟩
      · simp [Sink.committedOf, Sink.downloadOf_headers htype, Fields.get?_put,
          MediaTypes.downloadType_of_unknown hbuilt hknown]
      · simp [Sink.committedOf, Sink.downloadOf_headers htype, Fields.get?_put]

theorem sendResource_of_ok {location : Location} {world : World} {stream : Stream}
    (hopen : location.open? world.host.files = .ok stream) (handler : Handler)
    (headers : Fields String) :
    ∃ journal, handler.sendResource location { response := { headers }, world } =
      (.ok (),
        { response := handler.sentResponse location headers world.streams.length
          world := { world with journal, streams := world.streams ++ [stream] } }) := by
  cases hknown : MediaTypes.nonEmpty? (handler.mediaTypes.contentType? location.filename) with
  | some contentType =>
      obtain ⟨journal, hnote⟩ := serve_note_eq handler.channel Level.debug
        s!"Streaming as resource '{location.uri}'" { response := { headers }, world }
      refine ⟨journal, ?_⟩
      simp only [sendResource, sentResponse, hknown, note]
      rw [bind_of_ok hnote,
        bind_of_ok (write_of_ok (Sink.setHeader_of_open rfl _ _)),
        bind_of_ok (write_of_ok (Sink.setStatus_of_open rfl _)),
        bind_of_ok (serve_openStream_of_ok hopen)]
      rfl
  | none =>
      obtain ⟨journal, hnote⟩ := serve_note_eq handler.channel Level.debug
        s!"Streaming as file '{location.uri}'" { response := { headers }, world }
      refine ⟨journal, ?_⟩
      simp only [sendResource, sentResponse, hknown, note]
      rw [bind_of_ok hnote,
        bind_of_ok (write_of_ok (Sink.setStatus_of_open rfl _)),
        bind_of_ok (serve_openStream_of_ok hopen),
        bind_of_ok (write_of_ok (Sink.attachFile_of_open rfl rfl _ _))]
      exact write_of_ok (Sink.commit_of_open (Sink.downloadOf_committed _ _ _)
        (.inr (by rw [Sink.downloadOf_status]; rfl)))

theorem sendResource_of_error {location : Location} {world : World} {fault : Fault}
    (hopen : location.open? world.host.files = .error fault) (handler : Handler)
    (headers : Fields String) :
    ∃ journal headers', handler.sendResource location { response := { headers }, world } =
      (.error fault, { response := { headers := headers' }, world := { world with journal } }) := by
  cases hknown : MediaTypes.nonEmpty? (handler.mediaTypes.contentType? location.filename) with
  | some contentType =>
      obtain ⟨journal, hnote⟩ := serve_note_eq handler.channel Level.debug
        s!"Streaming as resource '{location.uri}'" { response := { headers }, world }
      refine ⟨journal, headers.put "Content-Type" contentType, ?_⟩
      simp only [sendResource, hknown, note]
      rw [bind_of_ok hnote,
        bind_of_ok (write_of_ok (Sink.setHeader_of_open rfl _ _)),
        bind_of_ok (write_of_ok (Sink.setStatus_of_open rfl _)),
        bind_of_error (serve_openStream_of_error hopen)]
      rfl
  | none =>
      obtain ⟨journal, hnote⟩ := serve_note_eq handler.channel Level.debug
        s!"Streaming as file '{location.uri}'" { response := { headers }, world }
      refine ⟨journal, headers, ?_⟩
      simp only [sendResource, hknown, note]
      rw [bind_of_ok hnote,
        bind_of_ok (write_of_ok (Sink.setStatus_of_open rfl _)),
        bind_of_error (serve_openStream_of_error hopen)]

/-! ## Validating and sending -/

/-- What follows when the last-modified time of a location is known. -/
def validateAndSend (handler : Handler) (request : Request) (location : Location)
    (lastModified : Int) : Handling Unit := do
  handler.policy.apply request lastModified
  if (← Handling.response).status = .notModified then Handling.write Sink.commit
  else handler.sendResource location

/-- The location can be read and is spared the client, who has it. -/
def IsSpared (request : Request) (location : Location) (files : FileTree) : Prop :=
  ∃ lastModified, location.lastModified files = .ok lastModified ∧
    CachePolicy.Spares request lastModified

/-- The location can be read, has to be sent and can be opened. -/
def IsSent (handler : Handler) (request : Request) (location : Location) (files : FileTree) :
    Prop :=
  ∃ lastModified headers stream, location.lastModified files = .ok lastModified ∧
    handler.policy.Sends request lastModified headers ∧ location.open? files = .ok stream

/-- Sending the location fails with the fault: at its last-modified time, at a date, or when it is
opened. -/
inductive Breaks (handler : Handler) (request : Request) (location : Location) (files : FileTree) :
    Fault → Prop
  | metadata {fault : Fault} (hread : location.lastModified files = .error fault) :
      Breaks handler request location files fault
  | validation {lastModified : Int} {fault : Fault}
      (hread : location.lastModified files = .ok lastModified)
      (hfails : CachePolicy.FailsWith request lastModified fault) :
      Breaks handler request location files fault
  | opening {lastModified : Int} {headers : Fields String} {fault : Fault}
      (hread : location.lastModified files = .ok lastModified)
      (hsends : handler.policy.Sends request lastModified headers)
      (hopen : location.open? files = .error fault) :
      Breaks handler request location files fault

section

variable {handler : Handler} {request : Request} {location : Location} {files : FileTree}
  {fault : Fault}

/-- There are three ways to answer with a location. -/
theorem isSpared_or_isSent_or_breaks (handler : Handler) (request : Request) (location : Location)
    (files : FileTree) :
    IsSpared request location files ∨ handler.IsSent request location files ∨
      ∃ fault, handler.Breaks request location files fault := by
  cases hread : location.lastModified files with
  | error fault => exact .inr (.inr ⟨fault, .metadata hread⟩)
  | ok lastModified =>
      rcases handler.policy.sends_or_spares_or_failsWith request lastModified with
        ⟨headers, hsends⟩ | hspares | ⟨fault, hfails⟩
      · cases hopen : location.open? files with
        | error fault => exact .inr (.inr ⟨fault, .opening hread hsends hopen⟩)
        | ok stream => exact .inr (.inl ⟨lastModified, headers, stream, hread, hsends, hopen⟩)
      · exact .inl ⟨lastModified, hread, hspares⟩
      · exact .inr (.inr ⟨fault, .validation hread hfails⟩)

theorem IsSpared.not_isSent (hspared : IsSpared request location files) :
    ¬ handler.IsSent request location files := by
  obtain ⟨lastModified, hread, hspares⟩ := hspared
  rintro ⟨lastModified', headers, stream, hread', hsends, -⟩
  obtain rfl := Except.ok.inj (hread.symm.trans hread')
  exact hsends.not_spares hspares

theorem Breaks.not_isSpared (hbreaks : handler.Breaks request location files fault) :
    ¬ IsSpared request location files := by
  rintro ⟨lastModified, hread, hspares⟩
  cases hbreaks with
  | metadata hunread => simp [hunread] at hread
  | validation hread' hfails =>
      obtain rfl := Except.ok.inj (hread.symm.trans hread')
      exact hfails.not_spares hspares
  | opening hread' hsends _ =>
      obtain rfl := Except.ok.inj (hread.symm.trans hread')
      exact hsends.not_spares hspares

theorem Breaks.not_isSent (hbreaks : handler.Breaks request location files fault) :
    ¬ handler.IsSent request location files := by
  rintro ⟨lastModified, headers, stream, hread, hsends, hopen⟩
  cases hbreaks with
  | metadata hunread => simp [hunread] at hread
  | validation hread' hfails =>
      obtain rfl := Except.ok.inj (hread.symm.trans hread')
      exact hfails.not_sends hsends
  | opening _ _ hopen' => simp [hopen'] at hopen

theorem Breaks.unique {other : Fault} (hbreaks : handler.Breaks request location files fault)
    (hother : handler.Breaks request location files other) : other = fault := by
  cases hbreaks with
  | metadata hunread =>
      cases hother with
      | metadata hunread' => exact Except.error.inj (hunread'.symm.trans hunread)
      | validation hread _ => simp [hunread] at hread
      | opening hread _ _ => simp [hunread] at hread
  | validation hread hfails =>
      cases hother with
      | metadata hunread => simp [hunread] at hread
      | validation hread' hfails' =>
          obtain rfl := Except.ok.inj (hread.symm.trans hread')
          exact hfails.unique hfails'
      | opening hread' hsends _ =>
          obtain rfl := Except.ok.inj (hread.symm.trans hread')
          exact absurd hsends hfails.not_sends
  | opening hread hsends hopen =>
      cases hother with
      | metadata hunread => simp [hunread] at hread
      | validation hread' hfails =>
          obtain rfl := Except.ok.inj (hread.symm.trans hread')
          exact absurd hsends hfails.not_sends
      | opening _ _ hopen' => exact Except.error.inj (hopen'.symm.trans hopen)

end

variable {handler : Handler} {request : Request} {location : Location} {world : World}

theorem streamResource_of_ok {lastModified : Int}
    (hread : location.lastModified world.host.files = .ok lastModified) {after : Exchange}
    (hrun : handler.validateAndSend request location lastModified { world } = (.ok (), after)) :
    handler.streamResource request location { world } = (.ok (), after) := by
  refine tryCatch_of_ok ?_
  rw [bind_of_ok (by rw [serve_lastModified_eq, hread])]
  exact hrun

theorem streamResource_of_error {lastModified : Int}
    (hread : location.lastModified world.host.files = .ok lastModified) {fault : Fault}
    {after : Exchange}
    (hrun : handler.validateAndSend request location lastModified { world } =
      (.error fault, after)) :
    handler.streamResource request location { world } =
      (.error (streamFault location fault), after) := by
  refine tryCatch_of_error ?_
  rw [bind_of_ok (by rw [serve_lastModified_eq, hread])]
  exact hrun

variable (handler world)

theorem streamResource_of_spares {lastModified : Int}
    (hread : location.lastModified world.host.files = .ok lastModified)
    (hspares : CachePolicy.Spares request lastModified) :
    ∃ journal, handler.streamResource request location { world } =
      (.ok (),
        { response :=
            { status := .notModified, headers := handler.policy.cacheHeaders lastModified
              committed := true }
          world := { world with journal } }) := by
  obtain ⟨journal, happly⟩ := CachePolicy.apply_of_spares handler.policy hspares world
  refine ⟨journal, streamResource_of_ok hread ?_⟩
  rw [validateAndSend, bind_of_ok happly]
  rfl

theorem streamResource_of_sends {lastModified : Int} {headers : Fields String} {stream : Stream}
    (hread : location.lastModified world.host.files = .ok lastModified)
    (hsends : handler.policy.Sends request lastModified headers)
    (hopen : location.open? world.host.files = .ok stream) :
    ∃ journal, handler.streamResource request location { world } =
      (.ok (),
        { response := handler.sentResponse location headers world.streams.length
          world := { world with journal, streams := world.streams ++ [stream] } }) := by
  obtain ⟨journal, hsend⟩ := sendResource_of_ok hopen handler headers
  refine ⟨journal, streamResource_of_ok hread ?_⟩
  rw [validateAndSend, bind_of_ok (CachePolicy.apply_of_sends hsends world)]
  exact hsend

theorem streamResource_of_breaks {fault : Fault}
    (hbreaks : handler.Breaks request location world.host.files fault) :
    ∃ journal headers, handler.streamResource request location { world } =
      (.error (streamFault location fault),
        { response := { headers }, world := { world with journal } }) := by
  cases hbreaks with
  | metadata hread =>
      refine ⟨world.journal, Fields.empty, tryCatch_of_error ?_⟩
      exact bind_of_error (by rw [serve_lastModified_eq, hread])
  | @validation lastModified _ hread hfails =>
      refine ⟨world.journal, handler.policy.cacheHeaders lastModified,
        streamResource_of_error hread ?_⟩
      exact bind_of_error (CachePolicy.apply_of_failsWith handler.policy hfails world)
  | @opening lastModified headers _ hread hsends hopen =>
      obtain ⟨journal, headers', hsend⟩ := sendResource_of_error hopen handler headers
      refine ⟨journal, headers', streamResource_of_error hread ?_⟩
      rw [validateAndSend, bind_of_ok (CachePolicy.apply_of_sends hsends world)]
      exact hsend

end VersionedAssets.Handler
