import VersionedAssets.Proofs.Application.Headers

/-! # What access records say

Layers that write access records pass on what comes from within, faults and answers alike. They draw
their numbers on the way in, the outermost first, and write on the way out, the innermost first. The
length that their texts show is the length that is sent.
-/

namespace VersionedAssets

namespace Application

/-- The length tells how much is sent: nothing is said of a stream, a client that has the resource
is sent nothing, and of all other answers the length is among the headers. -/
structure TellsLength (response : Response) (length : Option Int) : Prop where
  none_iff : length = none ↔ response.stream.isSome = true
  notModified : response.status = .notModified → length = some 0
  announced : response.stream = none → response.status ≠ .notModified →
    ∀ now server headers, response.headerItems now server = .ok headers →
      ∃ n : Nat, length = some (n : Int) ∧
        Response.named "Content-Length" headers = [("Content-Length", toString n)]

/-- What the layers make of what comes from within: what it is, and the records about it, of which
those are kept that are not below the threshold. -/
inductive PassesOn (logs : List AccessLog) (request : Request) (world : World) :
    Except Fault Response × World → Except Fault Response × World → Prop
  /-- Each layer writes a record about a fault. -/
  | fault {fault : Fault} {after left : World} {records : List Record}
      (hemits : after.Emits left records)
      (hjournal : left.journal =
        after.journal ++ records.filter fun record => after.threshold ≤ record.level)
      (hrecords : List.Forall₂ (fun visit record => visit.Reports request fault record)
        (AccessLog.visits logs world).reverse records) :
      PassesOn logs request world (.error fault, after) (.error fault, left)
  /-- Each layer that does not skip the path writes a record about an answer. -/
  | answer {response sent : Response} {after left : World} {records : List Record}
      (hsent : sent = AccessLog.numberedBy (AccessLog.visits logs world) response)
      (hnumbers : AccessLog.Numbers (AccessLog.visits logs world) response sent)
      (hemits : after.Emits left records)
      (hjournal : left.journal =
        after.journal ++ records.filter fun record => after.threshold ≤ record.level)
      (hrecords : List.Forall₂
        (fun visit record => ∃ length, visit.Records request response length record ∧
          TellsLength sent length)
        ((AccessLog.visits logs world).reverse.filter (Visit.notes request.path)) records) :
      PassesOn logs request world (.ok response, after) (.ok sent, left)

/-- The layers change nothing but the number of the request, and their records are true. -/
structure IsTransparent (app : Application) (logs : List AccessLog) (request : Request)
    (world : World) : Prop where
  /-- Each layer is entered once, and draws the next number. -/
  log_eq : (AccessLog.visits logs world).map (·.log) = logs
  requestId_eq : (AccessLog.visits logs world).map (·.requestId) =
    (List.range logs.length).map fun i => AccessLog.requestIdOf (world.drawnIds + i + 1)
  /-- That and reading the clock is all they do before the request is dispatched. -/
  inside_eq : ∃ clock, AccessLog.inside logs world =
    { world with clock, drawnIds := world.drawnIds + logs.length }
  dispatch_eq : (app.dispatch request (AccessLog.inside logs world)).1 =
    (app.dispatch request world).1
  passesOn : PassesOn logs request world (app.dispatch request (AccessLog.inside logs world))
    (app.handleRequest request world)

section

variable {app : Application} {request : Request} {host : Host} {response : Response}
  {opened : List Stream}

/-- What records say of the answer is true of what leaves the layers. -/
theorem Gives.tellsLength (hgives : app.Gives request host (.ok response) opened)
    (logs : List AccessLog) (world : World) (earlier : Nat) {visit : Visit} {length : Option Int}
    {record : Record}
    (hrecord : visit.Records request (response.countedAfter earlier) length record) :
    TellsLength (AccessLog.numberedBy (AccessLog.visits logs world)
      (response.countedAfter earlier)) length := by
  rw [AccessLog.length_of_records (hgives.undeclared_countedAfter earlier) hrecord]
  constructor
  case none_iff => simp [Option.isSome_iff_ne_none]
  case notModified =>
    intro hstatus
    rw [AccessLog.numberedBy_status] at hstatus
    obtain ⟨-, hstream, hbody⟩ := hgives.bodiless (congrArg Status.allowsBody hstatus)
    simp [Response.countedAfter, hstream, hbody]
  case announced =>
    intro hstream hstatus now server headers hitems
    have hunowned : response.stream = none := by simpa [Response.countedAfter] using hstream
    rw [AccessLog.numberedBy_status] at hstatus
    have hbody : response.status.allowsBody = true := by
      rw [← Bool.not_eq_false]
      intro hbodiless
      exact hstatus (hgives.bodiless hbodiless).1
    refine ⟨response.body.length, ?_, ?_⟩
    · simp [Response.countedAfter, hunowned]
    · obtain ⟨date, rfl, -⟩ := Response.exists_sentHeaders hitems
      have hfilled := hgives.filledBy_numberedBy logs world earlier
      have hnames := hfilled.mono fun _ => Writes.name_mem
      rw [Response.named_length hnames (hgives.undeclared_numberedBy _ earlier)]
      simp [Response.announcedLength?, Response.countedAfter, hunowned, hbody]

/-- Every request goes through the layers like this, whatever their settings are. -/
theorem handleRequest_isTransparent {logs : List AccessLog}
    (hlogs : app.chain.getD app.layers = logs.map AccessLog.toMiddleware) (request : Request)
    (world : World) : app.IsTransparent logs request world := by
  have hinside := AccessLog.extends_inside logs world
  obtain ⟨outcome, opened, hgives⟩ := app.exists_gives request world.host
  obtain ⟨_, hdirect, -⟩ := dispatch_of_gives hgives
  rw [← hinside.host_eq] at hgives
  obtain ⟨after, hrun, -⟩ := dispatch_of_gives hgives
  rw [hinside.streams_eq, List.append_nil] at hrun
  refine ⟨AccessLog.map_log_visits logs world, AccessLog.map_requestId_visits logs world,
    AccessLog.inside_eq logs world, by rw [hrun, hdirect], ?_⟩
  rw [handleRequest, hlogs, hrun]
  cases outcome with
  | error fault =>
      obtain ⟨left, records, hwrap, hemits, hrecords⟩ := AccessLog.wrap_of_error logs hrun
      rw [hwrap]
      exact .fault hemits hemits.journal_eq hrecords
  | ok response =>
      have hlength := hgives.undeclared_countedAfter world.streams.length
      obtain ⟨left, records, hwrap, hemits, hrecords⟩ := AccessLog.wrap_of_ok logs hlength hrun
      rw [hwrap]
      refine .answer rfl (AccessLog.numbers_numberedBy _ _) hemits hemits.journal_eq
        (hrecords.imp ?_)
      rintro visit record ⟨length, hrecord⟩
      exact ⟨length, hrecord, hgives.tellsLength logs world world.streams.length hrecord⟩

/-- Of three layers, the outermost writes a line and adds no number, the next one writes an object,
and the innermost skips the path. -/
theorem handleRequest_isTransparent_three :
    let logs : List AccessLog :=
      [{ includeId := false }, { format := .json }, { skipPaths := ["/x.js"] }]
    let app : Application := { layers := logs.map AccessLog.toMiddleware }
    let request : Request := { method := "GET", path := "/x.js", clientAddress := "127.0.0.1" }
    app.IsTransparent logs request {} ∧
      (app.handleRequest request {}).1 =
        .ok ((Response.notFound "No resource handler for /x.js").assignHeader "X-Request-ID"
          "00000002") ∧
      ∃ object line, (app.handleRequest request {}).2.journal = [object, line] ∧
        object.channel = Channel.access ∧ line.channel = Channel.access ∧
        (∃ duration timestamp, Json.read? object.text = some (.object [
          ("request_id", .text "00000002"), ("method", .text "GET"), ("path", .text "/x.js"),
          ("query", .text ""), ("client_ip", .text "127.0.0.1"), ("user_agent", .text "-"),
          ("status_code", .int 404), ("content_length", .int 42), ("duration_ms", duration),
          ("timestamp", .text timestamp)])) ∧
        ∃ duration timestamp, line.text = "127.0.0.1 - - [" ++ timestamp ++
          "] \"GET /x.js\" 404 42 " ++ duration ++ "ms" := by
  intro logs app request
  have htransparent : app.IsTransparent logs request {} := handleRequest_isTransparent rfl _ _
  have hanswer : (app.handleRequest request {}).1 =
      .ok ((Response.notFound "No resource handler for /x.js").assignHeader "X-Request-ID"
        "00000002") := by decide +kernel
  have hdispatched : (app.dispatch request (AccessLog.inside logs {})).1 =
        .ok (Response.notFound "No resource handler for /x.js") ∧
      (app.dispatch request (AccessLog.inside logs {})).2.journal = [] ∧
      (app.dispatch request (AccessLog.inside logs {})).2.threshold = Level.debug := by
    decide +kernel
  have hundeclared : (Response.notFound "No resource handler for /x.js").Undeclared := by
    unfold Response.Undeclared
    decide +kernel
  have hcount : (if (Response.notFound "No resource handler for /x.js").stream.isSome then none
      else some ((Response.notFound "No resource handler for /x.js").body.length : Int)) =
        some 42 := by decide +kernel
  have hvisits : ((AccessLog.visits logs {}).reverse.filter (Visit.notes request.path)) =
      [{ log := { format := .json }, requestId := "00000002", started := 0 },
        { log := { includeId := false }, requestId := "00000001", started := 0 }] := rfl
  have hpasses := htransparent.passesOn
  refine ⟨htransparent, hanswer, ?_⟩
  generalize app.dispatch request (AccessLog.inside logs {}) = inner at hdispatched hpasses
  generalize app.handleRequest request {} = outer at hpasses ⊢
  obtain ⟨hresponse, hempty, hthreshold⟩ := hdispatched
  cases hpasses with
  | fault => cases hresponse
  | @answer response sent after left records hsent hnumbers hemits hjournal hrecords =>
      obtain rfl := Except.ok.inj hresponse
      rw [hvisits] at hrecords
      obtain _ | ⟨⟨length, hobject, -⟩, _ | ⟨⟨length', hline, -⟩, _ | _⟩⟩ := hrecords
      obtain rfl := (AccessLog.length_of_records hundeclared hobject).trans hcount
      obtain rfl := (AccessLog.length_of_records hundeclared hline).trans hcount
      obtain ⟨hchannel, hlevel, -, ended, timestamp, -, -, hshows⟩ := hobject
      obtain ⟨hchannel', hlevel', -, ended', timestamp', -, -, hshows'⟩ := hline
      have hkept {record : Record} (hrecord : record.level = Level.info) :
          decide (after.threshold ≤ record.level) = true := by
        rw [hrecord, show after.threshold = Level.debug from hthreshold]
        decide
      rw [show after.journal = [] from hempty, List.nil_append, List.filter_cons,
        if_pos (hkept hlevel), List.filter_cons, if_pos (hkept hlevel'), List.filter_nil] at hjournal
      refine ⟨_, _, hjournal, hchannel, hchannel', ?_, ?_⟩
      · cases hshows with
        | object _ hread => exact ⟨_, _, hread⟩
      · cases hshows' with
        | @line duration _ _ htext =>
            have hparts : _ = "127.0.0.1" ++ " - - [" ++ timestamp' ++ "] \"" ++ "GET" ++ " " ++
                "/x.js" ++ "\" " ++ "404" ++ " " ++ "42" ++ " " ++ duration ++ "ms" := htext
            exact ⟨duration, timestamp', hparts.trans (String.toList_inj.mp (by simp))⟩

end

end Application

end VersionedAssets
