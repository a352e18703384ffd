import VersionedAssets.Proofs.Handler.Answers

/-! # How requests end

A handler that gets a fresh response ends in one of seven ways. Five of them commit the response,
once and with the status that tells which way it was; the other two are faults, which leave the
response open and no stream behind. Which way it is depends on the path, then on the store, and
then on what the client has.
-/

namespace VersionedAssets.Handler

open Actions Handling ResourcePath VersionToken

/-- The outcome of a handler and what it left. -/
abbrev Run := Except Fault Unit × Exchange

/-- The run left the response, asked the store for the paths and opened the streams. Besides that
it only wrote records. -/
def Leaves (handler : Handler) (world : World) (run : Run) (outcome : Except Fault Unit)
    (response : Response) (asked : List String) (opened : List Stream) : Prop :=
  ∃ journal, run = (outcome,
    { response
      world :=
        { world with
          journal
          enquiries := world.enquiries ++ asked.map (Enquiry.mk handler.store.name)
          streams := world.streams ++ opened } })

/-- What the store of a handler says about a path. -/
abbrev found (handler : Handler) (world : World) (path : String) :
    Except Fault (Option Location) :=
  (handler.store.lookup world.host (remove path)).outcome

/-- The ways in which a request for a path ends. -/
inductive Ends (handler : Handler) (request : Request) (path : String) (world : World)
    (run : Run) : Prop
  | refused (hrefused : segments? path = none)
      (hleaves : handler.Leaves world run (.ok ())
        { status := .forbidden, committed := true } [] [])
  | unserved (hsafe : segments? path ≠ none)
      (hdirectory : path = "" ∨ Text.endsWith path "/" = true)
      (hleaves : handler.Leaves world run (.ok ())
        { status := .notFound, committed := true } [] [])
  | missing (hguarded : Guarded path) (hfound : handler.found world path = .ok none)
      (hleaves : handler.Leaves world run (.ok ())
        { status := .notFound, committed := true } [remove path] [])
  | spared {location : Location} {lastModified : Int} (hguarded : Guarded path)
      (hfound : handler.found world path = .ok (some location))
      (hread : location.lastModified world.host.files = .ok lastModified)
      (hspares : CachePolicy.Spares request lastModified)
      (hleaves : handler.Leaves world run (.ok ())
        { status := .notModified, headers := handler.policy.cacheHeaders lastModified
          committed := true } [remove path] [])
  | sent {location : Location} {lastModified : Int} {headers : Fields String} {stream : Stream}
      (hguarded : Guarded path) (hfound : handler.found world path = .ok (some location))
      (hread : location.lastModified world.host.files = .ok lastModified)
      (hsends : handler.policy.Sends request lastModified headers)
      (hopen : location.open? world.host.files = .ok stream)
      (hleaves : handler.Leaves world run (.ok ())
        (handler.sentResponse location headers world.streams.length) [remove path] [stream])
  | unanswered {fault : Fault} (hguarded : Guarded path)
      (hfound : handler.found world path = .error fault)
      (hleaves : handler.Leaves world run (.error fault) {} [remove path] [])
  | broken {location : Location} {fault : Fault} {headers : Fields String} (hguarded : Guarded path)
      (hfound : handler.found world path = .ok (some location))
      (hbreaks : handler.Breaks request location world.host.files fault)
      (hleaves : handler.Leaves world run (.error (streamFault location fault)) { headers }
        [remove path] [])

section

variable {handler : Handler} {request : Request} {path : String} {world : World}
  {location : Location}

/-- A path that names a location is answered with it, in the world that the enquiry left. -/
theorem handle_of_found (hrequests : Requests handler request path) (hguarded : Guarded path)
    (hfound : handler.found world path = .ok (some location)) :
    ∃ journal, handler.handle request { world } =
      handler.streamResource request location
        (askedFor handler.store (remove path) journal { world }) := by
  obtain rfl := requests_iff.mp hrequests
  obtain ⟨journal, hrun⟩ :=
    handler.handleResource_eq request (handler.requestedPath request) { world }
  refine ⟨journal, ?_⟩
  rw [found] at hfound
  rw [handle_of_guarded hguarded, hrun]
  simp only [hfound]
  rfl

theorem leaves_of_refused (hrequests : Requests handler request path)
    (hrefused : segments? path = none) (world : World) :
    handler.Leaves world (handler.handle request { world }) (.ok ())
      { status := .forbidden, committed := true } [] [] := by
  obtain rfl := requests_iff.mp hrequests
  obtain ⟨journal, hrun⟩ := handle_of_refused hrefused { world }
  rw [hrun]
  exact ⟨journal, by simp [answer_eq]⟩

theorem leaves_of_unserved (hrequests : Requests handler request path)
    (hsafe : segments? path ≠ none) (hdirectory : path = "" ∨ Text.endsWith path "/" = true)
    (world : World) :
    handler.Leaves world (handler.handle request { world }) (.ok ())
      { status := .notFound, committed := true } [] [] := by
  obtain rfl := requests_iff.mp hrequests
  rw [handle_of_directory hsafe hdirectory]
  exact ⟨world.journal, by simp [answer_eq]⟩

theorem leaves_of_missing (hrequests : Requests handler request path) (hguarded : Guarded path)
    (hfound : handler.found world path = .ok none) :
    handler.Leaves world (handler.handle request { world }) (.ok ())
      { status := .notFound, committed := true } [remove path] [] := by
  obtain rfl := requests_iff.mp hrequests
  obtain ⟨journal, hrun⟩ :=
    handler.handleResource_eq request (handler.requestedPath request) { world }
  rw [handle_of_guarded hguarded, hrun]
  exact ⟨journal, by simp [hfound, askedFor, answerTo, answer_eq]⟩

theorem leaves_of_unanswered {fault : Fault} (hrequests : Requests handler request path)
    (hguarded : Guarded path) (hfound : handler.found world path = .error fault) :
    handler.Leaves world (handler.handle request { world }) (.error fault) {} [remove path] [] := by
  obtain rfl := requests_iff.mp hrequests
  obtain ⟨journal, hrun⟩ :=
    handler.handleResource_eq request (handler.requestedPath request) { world }
  rw [handle_of_guarded hguarded, hrun]
  exact ⟨journal, by simp [hfound, askedFor]⟩

theorem leaves_of_spares {lastModified : Int} (hrequests : Requests handler request path)
    (hguarded : Guarded path) (hfound : handler.found world path = .ok (some location))
    (hread : location.lastModified world.host.files = .ok lastModified)
    (hspares : CachePolicy.Spares request lastModified) :
    handler.Leaves world (handler.handle request { world }) (.ok ())
      { status := .notModified, headers := handler.policy.cacheHeaders lastModified
        committed := true } [remove path] [] := by
  -- the enquiry changes nothing that sending looks at
  obtain ⟨journal, hrun⟩ := handle_of_found hrequests hguarded hfound
  let asked := (askedFor handler.store (remove path) journal { world }).world
  obtain ⟨journal', hstream⟩ := streamResource_of_spares handler asked hread hspares
  refine ⟨journal', ?_⟩
  rw [hrun]
  refine hstream.trans ?_
  simp [asked, askedFor]

theorem leaves_of_sends {lastModified : Int} {headers : Fields String} {stream : Stream}
    (hrequests : Requests handler request path) (hguarded : Guarded path)
    (hfound : handler.found world path = .ok (some location))
    (hread : location.lastModified world.host.files = .ok lastModified)
    (hsends : handler.policy.Sends request lastModified headers)
    (hopen : location.open? world.host.files = .ok stream) :
    handler.Leaves world (handler.handle request { world }) (.ok ())
      (handler.sentResponse location headers world.streams.length) [remove path] [stream] := by
  obtain ⟨journal, hrun⟩ := handle_of_found hrequests hguarded hfound
  let asked := (askedFor handler.store (remove path) journal { world }).world
  obtain ⟨journal', hstream⟩ := streamResource_of_sends handler asked hread hsends hopen
  refine ⟨journal', ?_⟩
  rw [hrun]
  refine hstream.trans ?_
  simp [asked, askedFor]

theorem leaves_of_breaks {fault : Fault} (hrequests : Requests handler request path)
    (hguarded : Guarded path) (hfound : handler.found world path = .ok (some location))
    (hbreaks : handler.Breaks request location world.host.files fault) :
    ∃ headers : Fields String,
      handler.Leaves world (handler.handle request { world })
        (.error (streamFault location fault)) { headers } [remove path] [] := by
  obtain ⟨journal, hrun⟩ := handle_of_found hrequests hguarded hfound
  let asked := (askedFor handler.store (remove path) journal { world }).world
  obtain ⟨journal', headers, hstream⟩ := streamResource_of_breaks handler asked hbreaks
  refine ⟨headers, journal', ?_⟩
  rw [hrun]
  refine hstream.trans ?_
  simp [asked, askedFor]

theorem ends_of_guarded (hrequests : Requests handler request path) (hguarded : Guarded path)
    (world : World) : handler.Ends request path world (handler.handle request { world }) := by
  cases hfound : handler.found world path with
  | error fault =>
      exact .unanswered hguarded hfound (leaves_of_unanswered hrequests hguarded hfound)
  | ok answer =>
      cases answer with
      | none => exact .missing hguarded hfound (leaves_of_missing hrequests hguarded hfound)
      | some location =>
          rcases isSpared_or_isSent_or_breaks handler request location world.host.files with
            ⟨lastModified, hread, hspares⟩ | ⟨lastModified, headers, stream, hread, hsends, hopen⟩ |
            ⟨fault, hbreaks⟩
          · exact .spared hguarded hfound hread hspares
              (leaves_of_spares hrequests hguarded hfound hread hspares)
          · exact .sent hguarded hfound hread hsends hopen
              (leaves_of_sends hrequests hguarded hfound hread hsends hopen)
          · obtain ⟨headers, hleaves⟩ := leaves_of_breaks hrequests hguarded hfound hbreaks
            exact .broken hguarded hfound hbreaks hleaves

end

/-- Whatever is requested, the run ends in one of the seven ways. -/
theorem ends_of_requests {handler : Handler} {request : Request} {path : String}
    (hrequests : Requests handler request path) (world : World) :
    handler.Ends request path world (handler.handle request { world }) := by
  by_cases hguarded : Guarded path
  · exact ends_of_guarded hrequests hguarded world
  · by_cases hsafe : segments? path = none
    · exact .refused hsafe (leaves_of_refused hrequests hsafe world)
    · have hdirectory := directory_of_not_guarded hguarded hsafe
      exact .unserved hsafe hdirectory (leaves_of_unserved hrequests hsafe hdirectory world)

/-! ## What a run shows -/

/-- The run committed a response with the status, and it cannot be committed again. -/
structure Commits (run : Run) (status : Status) : Prop where
  succeeded : run.1 = .ok ()
  committed : run.2.response.committed = true
  status_eq : run.2.response.status = status
  final : (Handling.write Sink.commit run.2).1 = .error .committed

/-- The run failed with an open response that owns no stream, and opened none. -/
structure FailsClean (run : Run) (world : World) : Prop where
  failed : ∃ fault, run.1 = .error fault
  uncommitted : run.2.response.committed = false
  no_stream : run.2.response.stream = none
  streams_eq : run.2.world.streams = world.streams

/-- The paths that the store was asked for during the run, in order. -/
def Asks (handler : Handler) (world : World) (run : Run) (paths : List String) : Prop :=
  run.2.world.enquiries = world.enquiries ++ paths.map (Enquiry.mk handler.store.name)

/-- The streams that were opened during the run, in order. -/
def Opens (world : World) (run : Run) (streams : List Stream) : Prop :=
  run.2.world.streams = world.streams ++ streams

namespace Leaves

variable {handler : Handler} {world : World} {run : Run} {outcome : Except Fault Unit}
  {response : Response} {asked : List String} {opened : List Stream}

theorem response_eq (hleaves : handler.Leaves world run outcome response asked opened) :
    run.2.response = response := by
  obtain ⟨journal, rfl⟩ := hleaves
  rfl

theorem outcome_eq (hleaves : handler.Leaves world run outcome response asked opened) :
    run.1 = outcome := by
  obtain ⟨journal, rfl⟩ := hleaves
  rfl

theorem asks_iff (hleaves : handler.Leaves world run outcome response asked opened)
    (paths : List String) : handler.Asks world run paths ↔ paths = asked := by
  obtain ⟨journal, rfl⟩ := hleaves
  have hinjective : Function.Injective (Enquiry.mk handler.store.name) := by
    intro a b hab
    cases hab
    rfl
  rw [Asks, List.append_cancel_left_eq, hinjective.list_map.eq_iff]
  exact eq_comm

theorem opens_iff (hleaves : handler.Leaves world run outcome response asked opened)
    (streams : List Stream) : Opens world run streams ↔ streams = opened := by
  obtain ⟨journal, rfl⟩ := hleaves
  rw [Opens, List.append_cancel_left_eq]
  exact eq_comm

theorem commits_iff (hleaves : handler.Leaves world run (.ok ()) response asked opened)
    (hcommitted : response.committed = true) (status : Status) :
    Commits run status ↔ status = response.status := by
  constructor
  · intro hcommits
    rw [← hcommits.status_eq, hleaves.response_eq]
  · rintro rfl
    obtain ⟨journal, rfl⟩ := hleaves
    refine ⟨rfl, hcommitted, rfl, ?_⟩
    rw [write_apply]
    dsimp only
    rw [Sink.commit_of_committed hcommitted]

theorem not_commits {fault : Fault}
    (hleaves : handler.Leaves world run (.error fault) response asked opened) (status : Status) :
    ¬ Commits run status := by
  intro hcommits
  have hfailed := hcommits.succeeded
  rw [hleaves.outcome_eq] at hfailed
  cases hfailed

theorem failsClean {fault : Fault} {headers : Fields String}
    (hleaves : handler.Leaves world run (.error fault) { headers } asked []) :
    FailsClean run world := by
  obtain ⟨journal, rfl⟩ := hleaves
  exact ⟨⟨fault, rfl⟩, rfl, rfl, List.append_nil _⟩

end Leaves

/-- What is promised of the run of a request for a path. -/
structure Answered (handler : Handler) (request : Request) (path : String) (world : World)
    (run : Run) : Prop where
  /-- There is one commit, or a fault with nothing committed and no stream left behind. -/
  ends : (∃ status ∈ [Status.forbidden, .notFound, .notModified, .ok], Commits run status) ∨
    FailsClean run world
  /-- Just the paths that leave the store are refused, and the store does not hear of them. -/
  forbidden_iff : Commits run .forbidden ∧ handler.Asks world run [] ↔ segments? path = none
  forbidden_asks : Commits run .forbidden → handler.Asks world run []
  /-- Of the others, just directories are not found without asking. -/
  unserved_iff : segments? path ≠ none →
    (Commits run .notFound ∧ handler.Asks world run [] ↔
      path = "" ∨ Text.endsWith path "/" = true)
  /-- All others are asked for once, without their version token. -/
  asks : Guarded path → handler.Asks world run [remove path]
  notFound_iff : Guarded path → (Commits run .notFound ↔ handler.found world path = .ok none)
  notModified_iff : Guarded path →
    (Commits run .notModified ↔
      ∃ location, handler.found world path = .ok (some location) ∧
        IsSpared request location world.host.files)
  ok_iff : Guarded path →
    (Commits run .ok ↔
      ∃ location, handler.found world path = .ok (some location) ∧
        handler.IsSent request location world.host.files)
  /-- A resource that is sent is opened once, and the response owns its stream. -/
  sends : Commits run .ok →
    ∃ location stream, handler.found world path = .ok (some location) ∧
      location.open? world.host.files = .ok stream ∧ Opens world run [stream] ∧
      handler.Carries location world.streams.length run.2.response
  /-- Nothing is opened otherwise. -/
  unopened : ¬ Commits run .ok → Opens world run [] ∧ run.2.response.stream = none
  /-- The faults are those of the store, and those of the location under the name of streaming. -/
  fails_iff : ∀ fault, run.1 = .error fault ↔
    Guarded path ∧ (handler.found world path = .error fault ∨
      ∃ location cause, handler.found world path = .ok (some location) ∧
        handler.Breaks request location world.host.files cause ∧
        streamFault location cause = fault)

section

variable {handler : Handler} {request : Request} {path : String} {world : World} {run : Run}

theorem Answered.of_refused (hrefused : segments? path = none)
    (hleaves : handler.Leaves world run (.ok ())
      { status := .forbidden, committed := true } [] []) :
    handler.Answered request path world run := by
  have hunguarded : ¬ Guarded path := fun hguarded => hguarded.safe hrefused
  constructor <;>
    simp [hleaves.commits_iff rfl, hleaves.asks_iff, hleaves.opens_iff, hleaves.outcome_eq,
      hleaves.response_eq, hunguarded, hrefused]

theorem Answered.of_unserved (hsafe : segments? path ≠ none)
    (hdirectory : path = "" ∨ Text.endsWith path "/" = true)
    (hleaves : handler.Leaves world run (.ok ())
      { status := .notFound, committed := true } [] []) :
    handler.Answered request path world run := by
  have hunguarded : ¬ Guarded path := by
    rintro ⟨-, hne, hfile⟩
    rcases hdirectory with hempty | hslash
    · exact hne hempty
    · rw [hfile] at hslash
      cases hslash
  constructor <;>
    simp [hleaves.commits_iff rfl, hleaves.asks_iff, hleaves.opens_iff, hleaves.outcome_eq,
      hleaves.response_eq, hunguarded, hsafe, hdirectory]

theorem Answered.of_missing (hguarded : Guarded path)
    (hfound : handler.found world path = .ok none)
    (hleaves : handler.Leaves world run (.ok ())
      { status := .notFound, committed := true } [remove path] []) :
    handler.Answered request path world run := by
  constructor <;>
    simp [hleaves.commits_iff rfl, hleaves.asks_iff, hleaves.opens_iff, hleaves.outcome_eq,
      hleaves.response_eq, hguarded, hguarded.safe, hguarded.ne_empty, hguarded.not_directory,
      hfound]

theorem Answered.of_unanswered {fault : Fault} (hguarded : Guarded path)
    (hfound : handler.found world path = .error fault)
    (hleaves : handler.Leaves world run (.error fault) {} [remove path] []) :
    handler.Answered request path world run := by
  constructor <;>
    simp [hleaves.not_commits, hleaves.asks_iff, hleaves.opens_iff, hleaves.outcome_eq,
      hleaves.response_eq, hleaves.failsClean, hguarded, hguarded.safe, hguarded.ne_empty,
      hguarded.not_directory, hfound]

theorem Answered.of_spared {location : Location} {lastModified : Int} (hguarded : Guarded path)
    (hfound : handler.found world path = .ok (some location))
    (hread : location.lastModified world.host.files = .ok lastModified)
    (hspares : CachePolicy.Spares request lastModified)
    (hleaves : handler.Leaves world run (.ok ())
      { status := .notModified, headers := handler.policy.cacheHeaders lastModified
        committed := true } [remove path] []) :
    handler.Answered request path world run := by
  have hspared : IsSpared request location world.host.files := ⟨lastModified, hread, hspares⟩
  have hwhole : ∀ fault, ¬ handler.Breaks request location world.host.files fault :=
    fun _ hbreaks => hbreaks.not_isSpared hspared
  constructor <;>
    simp [hleaves.commits_iff rfl, hleaves.asks_iff, hleaves.opens_iff, hleaves.outcome_eq,
      hleaves.response_eq, hguarded, hguarded.safe, hguarded.ne_empty, hguarded.not_directory,
      hfound, hspared, hspared.not_isSent, hwhole]

theorem Answered.of_sent {location : Location} {lastModified : Int} {headers : Fields String}
    {stream : Stream} (hbuilt : handler.mediaTypes.IsBuilt) (hguarded : Guarded path)
    (hfound : handler.found world path = .ok (some location))
    (hread : location.lastModified world.host.files = .ok lastModified)
    (hsends : handler.policy.Sends request lastModified headers)
    (hopen : location.open? world.host.files = .ok stream)
    (hleaves : handler.Leaves world run (.ok ())
      (handler.sentResponse location headers world.streams.length) [remove path] [stream]) :
    handler.Answered request path world run := by
  have hsent : handler.IsSent request location world.host.files :=
    ⟨lastModified, headers, stream, hread, hsends, hopen⟩
  have hspared : ¬ IsSpared request location world.host.files :=
    fun hspared => hspared.not_isSent hsent
  have hwhole : ∀ fault, ¬ handler.Breaks request location world.host.files fault :=
    fun _ hbreaks => hbreaks.not_isSent hsent
  constructor <;>
    simp [hleaves.commits_iff (sentResponse_committed _ _ _ _), sentResponse_status,
      hleaves.asks_iff, hleaves.opens_iff, hleaves.outcome_eq, hleaves.response_eq, hguarded,
      hguarded.safe, hguarded.ne_empty, hguarded.not_directory, hfound, hsent, hspared, hwhole,
      hopen, carries_sentResponse hbuilt hsends]

theorem Answered.of_broken {location : Location} {fault : Fault} {headers : Fields String}
    (hguarded : Guarded path) (hfound : handler.found world path = .ok (some location))
    (hbreaks : handler.Breaks request location world.host.files fault)
    (hleaves : handler.Leaves world run (.error (streamFault location fault)) { headers }
      [remove path] []) :
    handler.Answered request path world run := by
  have hfault : ∀ other, handler.Breaks request location world.host.files other ↔
      other = fault := by
    intro other
    constructor
    · exact hbreaks.unique
    · rintro rfl
      exact hbreaks
  constructor <;>
    simp [hleaves.not_commits, hleaves.asks_iff, hleaves.opens_iff, hleaves.outcome_eq,
      hleaves.response_eq, hleaves.failsClean, hguarded, hguarded.safe, hguarded.ne_empty,
      hguarded.not_directory, hfound, hbreaks.not_isSpared, hbreaks.not_isSent, hfault]

end

/-- The run of every request keeps what is promised, whatever the store and the files do. -/
theorem handle_answered (handler : Handler) (hbuilt : handler.mediaTypes.IsBuilt)
    {request : Request} {path : String} (hrequests : Requests handler request path)
    (world : World) :
    handler.Answered request path world (handler.handle request { world }) := by
  cases ends_of_requests hrequests world with
  | refused hrefused hleaves => exact .of_refused hrefused hleaves
  | unserved hsafe hdirectory hleaves => exact .of_unserved hsafe hdirectory hleaves
  | missing hguarded hfound hleaves => exact .of_missing hguarded hfound hleaves
  | spared hguarded hfound hread hspares hleaves =>
      exact .of_spared hguarded hfound hread hspares hleaves
  | sent hguarded hfound hread hsends hopen hleaves =>
      exact .of_sent hbuilt hguarded hfound hread hsends hopen hleaves
  | unanswered hguarded hfound hleaves => exact .of_unanswered hguarded hfound hleaves
  | broken hguarded hfound hbreaks hleaves => exact .of_broken hguarded hfound hbreaks hleaves

/-- A script is asked for without its token and sent as what the registry says. -/
theorem answered_script :
    let script : Location :=
      { uri := "memory:app.js", filename := "app.js", modified := fun _ => .ok (.whole 5)
        content := fun _ => .ok { rest := [120] } }
    let handler : Handler :=
      { urlPath := "/public"
        store :=
          { name := "store"
            lookup := fun _ path =>
              .silent (.ok (if path = "app.js" then some script else none)) } }
    let request : Request := { method := "GET", path := "/public/app-ver-5.js" }
    handler.Answered request "app-ver-5.js" {} (handler.handle request { world := {} }) ∧
      Commits (handler.handle request { world := {} }) .ok := by
  intro script handler request
  have hbuilt : handler.mediaTypes.IsBuilt := ⟨[], "utf-8", rfl, by simp⟩
  have hrequests : Requests handler request "app-ver-5.js" :=
    requests_iff.mpr (by decide +kernel)
  have hanswered := handle_answered handler hbuilt hrequests {}
  exact ⟨hanswered, by decide +kernel, by decide +kernel, by decide +kernel, by decide +kernel⟩

end VersionedAssets.Handler
