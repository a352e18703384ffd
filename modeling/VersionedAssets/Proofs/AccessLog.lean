import Mathlib.Data.List.Forall2
import VersionedAssets.AccessLog
import VersionedAssets.Proofs.Json
import VersionedAssets.Proofs.Response.Headers
import VersionedAssets.Proofs.World

/-! # What the access log lets through

The layer that writes access records changes nothing but the number of the request among the headers
of the answer. Faults go through it as they are, and it adds none of its own: a record can only fail
to be written for a length that was declared in a header. What a record says can be told from its
text, be it a line or a JSON object.
-/

namespace VersionedAssets

open Actions

namespace AccessEntry

/-- The text shows the entry, on a line or as a JSON object. For a length that is not known there is
a dash on the line, and null in the object. -/
inductive Shows (entry : AccessEntry) : LogFormat → String → Prop
  | line {duration text : String} (hduration : entry.duration.text = .ok duration)
      (htext : text =
        (if entry.clientAddress = "" then "-" else entry.clientAddress) ++ " - - [" ++
          entry.timestamp ++ "] \"" ++ entry.method ++ " " ++ entry.path ++ "\" " ++
          toString entry.statusCode ++ " " ++ entry.contentLength.elim "-" toString ++ " " ++
          duration ++ "ms") :
      Shows entry .text text
  | object {duration : Json} {text : String} (hduration : entry.duration.toJson.Alike duration)
      (hread : Json.read? text = some (.object [
        ("request_id", .text entry.requestId),
        ("method", .text entry.method),
        ("path", .text entry.path),
        ("query", .text entry.query),
        ("client_ip", .text entry.clientAddress),
        ("user_agent", .text entry.userAgent),
        ("status_code", .int entry.statusCode),
        ("content_length", entry.contentLength.elim .null .int),
        ("duration_ms", duration),
        ("timestamp", .text entry.timestamp)])) :
      Shows entry .json text

theorem shows_line {entry : AccessEntry} {text : String} (htext : entry.toText = .ok text) :
    entry.Shows .text text := by
  unfold toText at htext
  cases hduration : entry.duration.text with
  | error fault =>
      rw [hduration] at htext
      cases htext
  | ok duration =>
      rw [hduration] at htext
      refine .line hduration ((Except.ok.inj htext).symm.trans ?_)
      have hclient : entry.client =
          if entry.clientAddress = "" then "-" else entry.clientAddress := by
        simp [client, String.isEmpty_iff]
      have hsize : entry.size = entry.contentLength.elim "-" toString := by
        unfold size
        cases entry.contentLength <;> rfl
      rw [hclient, hsize]

theorem isScalar_of_mem_members {entry : AccessEntry} {member : String × Json}
    (hmember : member ∈ entry.members) : member.2.IsScalar := by
  have htext (s : String) : (Json.text s).IsScalar := trivial
  have hcode : (Json.int entry.statusCode).IsScalar := trivial
  have hlength : ((entry.contentLength.map Json.int).getD .null).IsScalar := by
    cases entry.contentLength <;> exact trivial
  have hduration : entry.duration.toJson.IsScalar := by
    cases entry.duration <;> exact trivial
  revert member
  simp only [members, List.forall_mem_cons, htext, hcode, hlength, hduration, List.not_mem_nil,
    false_implies, implies_true, and_self]

/-- A reader of JSON finds the entry in the object. -/
theorem shows_object (entry : AccessEntry) : entry.Shows .json entry.toJson := by
  have hlength {found : Json} : ((entry.contentLength.map Json.int).getD .null).Alike found ↔
      found = entry.contentLength.elim .null .int := by
    cases entry.contentLength with
    | none => exact Json.alike_null_iff
    | some n => exact Json.alike_int_iff
  obtain ⟨found, hfound, hread⟩ := @Json.exists_read?_object { ascii := true } rfl entry.members
    (List.cons_ne_nil _ _) fun _ => isScalar_of_mem_members
  simp only [members, Json.finds_cons_iff, Json.finds_nil_iff, hlength, Json.alike_text_iff,
    Json.alike_int_iff, exists_eq_left, exists_eq_left', exists_exists_and_eq_and] at hfound
  obtain ⟨duration, hduration, rfl⟩ := hfound
  exact .object hduration hread

end AccessEntry

/-- A request in a layer: the layer, the number that it drew, and when the request came. -/
structure Visit where
  log : AccessLog
  requestId : String
  started : Float

namespace Visit

/-- Does the layer write a record about answers for the path? -/
def notes (path : String) (visit : Visit) : Bool := !visit.log.skipPaths.contains path

/-- The record is the one that the layer writes about a request that failed. It shows what was asked
for, what the fault was, and how long it took. -/
structure Reports (visit : Visit) (request : Request) (fault : Fault) (record : Record) : Prop where
  channel_eq : record.channel = Channel.access
  level_eq : record.level = Level.error
  fault_eq : record.fault = none
  exists_text_eq : ∃ ended, record.text =
    "Request failed: " ++ request.method ++ " " ++ request.path ++ " - " ++ fault.kind ++ ": " ++
      fault.message ++ " (" ++ Number.FloatText.twoPlaces ((ended - visit.started) * 1000) ++ "ms)"

/-- What there is to say about an answer with a length. -/
def account (visit : Visit) (request : Request) (response : Response) (length : Option Int)
    (ended : Float) (timestamp : String) : AccessEntry where
  requestId := visit.requestId
  method := request.method
  path := request.path
  query := Query.render request.query
  clientAddress := request.clientAddress
  userAgent := if request.userAgent.isEmpty then "-" else request.userAgent
  statusCode := response.status.code
  contentLength := length
  duration := .fractional ((ended - visit.started) * 1000)
  timestamp := timestamp

/-- The record is the one that the layer writes about an answer with a length. Its text shows who
asked for what, the answer and its length, and how long it took. -/
structure Records (visit : Visit) (request : Request) (response : Response) (length : Option Int)
    (record : Record) : Prop where
  channel_eq : record.channel = Channel.access
  level_eq : record.level = visit.log.level
  fault_eq : record.fault = none
  exists_account : ∃ ended timestamp,
    AccessLog.entry request response visit.requestId
        (.fractional ((ended - visit.started) * 1000)) timestamp =
      .ok (visit.account request response length ended timestamp) ∧
    visit.log.render (visit.account request response length ended timestamp) = .ok record.text ∧
    (visit.account request response length ended timestamp).Shows visit.log.format record.text

/-- Answers that differ in nothing that records show have the same records. -/
theorem Records.congr {visit : Visit} {request : Request} {response other : Response}
    {length : Option Int} {record : Record}
    (hrecords : visit.Records request response length record)
    (hentry : AccessLog.entry request response = AccessLog.entry request other)
    (hstatus : response.status = other.status) : visit.Records request other length record := by
  obtain ⟨hchannel, hlevel, hfault, ended, timestamp, haccount⟩ := hrecords
  have hsame : visit.account request response length ended timestamp =
      visit.account request other length ended timestamp := by rw [account, account, hstatus]
  rw [hentry, hsame] at haccount
  exact ⟨hchannel, hlevel, hfault, ended, timestamp, haccount⟩

end Visit

namespace AccessLog

variable {request : Request} {response : Response} {world after : World}

/-! ## One layer -/

/-- What a layer keeps in mind of a request that comes. -/
def visit (log : AccessLog) (world : World) : Visit where
  log
  requestId := world.drawId.1
  started := world.drawId.2.readClock.1

/-- The world in which the layer asks the inner responder. -/
def entered (world : World) : World := world.drawId.2.readClock.2

theorem entered_eq (world : World) :
    ∃ clock, entered world = { world with clock, drawnIds := world.drawnIds + 1 } := by
  obtain ⟨clock, hclock⟩ := World.Emits.readClock world.drawId.2
  exact ⟨clock, hclock⟩

theorem contentLength_of_undeclared (hlength : response.Undeclared) :
    contentLength response =
      .ok (if response.stream.isSome then none else some (response.body.length : Int)) := by
  rw [contentLength, hlength]

theorem length_of_records (hlength : response.Undeclared) {visit : Visit} {length : Option Int}
    {record : Record} (hrecords : visit.Records request response length record) :
    length = if response.stream.isSome then none else some (response.body.length : Int) := by
  obtain ⟨ended, timestamp, hentry, -, -⟩ := hrecords.exists_account
  rw [entry, contentLength_of_undeclared hlength] at hentry
  exact (congrArg AccessEntry.contentLength (Except.ok.inj hentry)).symm

theorem exists_render (log : AccessLog) {written : AccessEntry} {millis : Float}
    (hduration : written.duration = .fractional millis) :
    ∃ text, log.render written = .ok text := by
  unfold render
  split
  · rw [AccessEntry.toText, hduration]
    exact ⟨_, rfl⟩
  · exact ⟨_, rfl⟩

/-- What is written in the format of the layer shows the entry. -/
theorem shows_of_render {log : AccessLog} {written : AccessEntry} {text : String}
    (hrender : log.render written = .ok text) : written.Shows log.format text := by
  unfold render at hrender
  cases hformat : log.format with
  | text =>
      rw [hformat] at hrender
      exact AccessEntry.shows_line hrender
  | json =>
      rw [hformat] at hrender
      obtain rfl := Except.ok.inj hrender
      exact written.shows_object

/-- A record about an answer is written if nobody else has declared a length for it. -/
theorem exists_record (hlength : response.Undeclared) (visit : Visit) (request : Request)
    (ended : Float) (world : World) :
    ∃ length record, visit.Records request response length record ∧
      visit.log.record request response visit.requestId ((ended - visit.started) * 1000) world =
        (.ok (), world.note record) := by
  let length : Option Int := if response.stream.isSome then none else some response.body.length
  let written := visit.account request response length ended world.timestamp
  have hentry : entry request response visit.requestId
      (.fractional ((ended - visit.started) * 1000)) world.timestamp = .ok written := by
    rw [entry, contentLength_of_undeclared hlength]
    rfl
  obtain ⟨text, hrender⟩ := visit.log.exists_render (show written.duration = .fractional _ from rfl)
  have hboth : (entry request response visit.requestId
      (.fractional ((ended - visit.started) * 1000)) world.timestamp >>= visit.log.render) =
        .ok text := by
    rw [hentry]
    exact hrender
  refine ⟨length, { channel := Channel.access, level := visit.log.level, text },
    ⟨rfl, rfl, rfl, ended, world.timestamp, hentry, hrender, shows_of_render hrender⟩, ?_⟩
  rw [record, bind_of_ok (get_apply world)]
  dsimp only
  rw [hboth]
  rfl

/-- The answer as the layer passes it on. -/
def numbered (log : AccessLog) (requestId : String) (response : Response) : Response :=
  if log.includeId then response.assignHeader "X-Request-ID" requestId else response

theorem requestId_ne_contentLength : Text.lower "X-Request-ID" ≠ Text.lower "Content-Length" := by
  decide +kernel

theorem undeclared_numbered (log : AccessLog) (requestId : String)
    (hlength : response.Undeclared) : (log.numbered requestId response).Undeclared := by
  unfold numbered
  split
  · exact hlength.assignHeader requestId_ne_contentLength requestId
  · exact hlength

/-- The number of the request is nothing that records tell from the headers. -/
theorem entry_numbered (log : AccessLog) (requestId : String) (request : Request)
    (response : Response) :
    entry request (log.numbered requestId response) = entry request response := by
  unfold numbered
  split
  · have hlength :=
      Response.header?_assignHeader_of_ne requestId_ne_contentLength response requestId
    unfold entry contentLength
    rw [hlength]
    rfl
  · rfl

theorem status_numbered (log : AccessLog) (requestId : String) (response : Response) :
    (log.numbered requestId response).status = response.status := by
  unfold numbered
  split <;> rfl

theorem since_eq (started : Float) (world : World) :
    since started world = (.ok ((world.readClock.1 - started) * 1000), world.readClock.2) := rfl

/-- A fault goes through the layer, which writes one record about it. -/
theorem respond_of_error (log : AccessLog) {inner : Responder} {fault : Fault}
    (hinner : inner request (entered world) = (.error fault, after)) :
    ∃ left record, log.respond inner request world = (.error fault, left) ∧
      after.Emits left [record] ∧ (log.visit world).Reports request fault record := by
  have hdraw : Serving.drawId world = (.ok world.drawId.1, world.drawId.2) := rfl
  have hclock : Serving.readClock world.drawId.2 =
      (.ok world.drawId.2.readClock.1, entered world) := rfl
  let record : Record :=
    { channel := Channel.access, level := Level.error
      text := failureText request fault
        ((after.readClock.1 - world.drawId.2.readClock.1) * 1000) }
  have hattempt : attempt inner request world.drawId.2.readClock.1 (entered world) =
      (.error fault, after.readClock.2.note record) := by
    rw [attempt, tryCatch_of_error hinner, bind_of_ok (since_eq _ after)]
    rfl
  refine ⟨_, record, ?_, (World.Emits.readClock after).trans (.note _ _), rfl, rfl, rfl, _, rfl⟩
  rw [respond, bind_of_ok hdraw, bind_of_ok hclock, bind_of_error hattempt]

/-- An answer goes through the layer with its number, and there is one record about it unless the
path is one to skip. -/
theorem respond_of_ok (log : AccessLog) {inner : Responder} (hlength : response.Undeclared)
    (hinner : inner request (entered world) = (.ok response, after)) :
    ∃ left records,
      log.respond inner request world = (.ok (log.numbered world.drawId.1 response), left) ∧
        after.Emits left records ∧
        List.Forall₂ (fun visit record => ∃ length, visit.Records request response length record)
          ([log.visit world].filter (Visit.notes request.path)) records := by
  have hdraw : Serving.drawId world = (.ok world.drawId.1, world.drawId.2) := rfl
  have hclock : Serving.readClock world.drawId.2 =
      (.ok world.drawId.2.readClock.1, entered world) := rfl
  have hattempt : attempt inner request world.drawId.2.readClock.1 (entered world) =
      (.ok response, after) := tryCatch_of_ok hinner
  have hnumbered := log.undeclared_numbered world.drawId.1 hlength
  have hnotes : Visit.notes request.path (log.visit world) =
      !log.skipPaths.contains request.path := rfl
  rw [respond, bind_of_ok hdraw, bind_of_ok hclock, bind_of_ok hattempt,
    bind_of_ok (since_eq _ after)]
  dsimp only
  split
  next hnoted =>
    obtain ⟨length, record, hrecords, hrecord⟩ := exists_record hnumbered (log.visit world) request
      after.readClock.1 after.readClock.2
    refine ⟨_, _, bind_of_ok hrecord, (World.Emits.readClock after).trans (.note _ _), ?_⟩
    rw [List.filter_cons_of_pos (hnotes.trans hnoted)]
    exact .cons ⟨length, hrecords.congr (log.entry_numbered _ _ _) (log.status_numbered _ _)⟩ .nil
  next hskipped =>
    refine ⟨_, [], rfl, World.Emits.readClock after, ?_⟩
    rw [← hnotes] at hskipped
    rw [List.filter_cons_of_neg hskipped]
    exact .nil

/-! ## Layers around each other -/

/-- What the layers keep in mind of a request on its way in, the outermost first. -/
def visits : List AccessLog → World → List Visit
  | [], _ => []
  | log :: rest, world => log.visit world :: visits rest (entered world)

/-- The world in which the innermost layer asks the inner responder. -/
def inside : List AccessLog → World → World
  | [], world => world
  | _ :: rest, world => inside rest (entered world)

theorem inside_eq (logs : List AccessLog) (world : World) :
    ∃ clock, inside logs world =
      { world with clock, drawnIds := world.drawnIds + logs.length } := by
  induction logs generalizing world with
  | nil => exact ⟨world.clock, rfl⟩
  | cons log rest ih =>
      obtain ⟨clock, hentered⟩ := entered_eq world
      obtain ⟨clock', hinside⟩ := ih (entered world)
      refine ⟨clock', ?_⟩
      rw [inside, hinside, hentered, List.length_cons]
      simp only [Nat.add_assoc, Nat.add_comm 1]

theorem extends_inside (logs : List AccessLog) (world : World) :
    world.Extends (inside logs world) [] := by
  obtain ⟨clock, hinside⟩ := inside_eq logs world
  rw [hinside]
  exact ⟨rfl, rfl, (List.append_nil _).symm⟩

theorem map_log_visits (logs : List AccessLog) (world : World) :
    (visits logs world).map (·.log) = logs := by
  induction logs generalizing world with
  | nil => rfl
  | cons log rest ih =>
      rw [visits, List.map_cons, ih]
      rfl

/-- The number of the request with which so many numbers were drawn. -/
def requestIdOf (count : Nat) : String := String.ofList (Text.Quoted.hex 8 count)

/-- The layers draw their numbers one after the other, the outermost first. -/
theorem map_requestId_visits (logs : List AccessLog) (world : World) :
    (visits logs world).map (·.requestId) =
      (List.range logs.length).map fun i => requestIdOf (world.drawnIds + i + 1) := by
  induction logs generalizing world with
  | nil => rfl
  | cons log rest ih =>
      obtain ⟨clock, hentered⟩ := entered_eq world
      have hdrawn : (entered world).drawnIds = world.drawnIds + 1 := by rw [hentered]
      rw [visits, List.map_cons, ih, List.length_cons, List.range_succ_eq_map, List.map_cons,
        List.map_map, hdrawn]
      refine congrArg (_ :: ·) (List.map_congr_left ?_)
      intro i _
      simp only [Function.comp_apply, Nat.succ_eq_add_one, Nat.add_assoc, Nat.add_comm 1]

theorem exists_requestId {logs : List AccessLog} {visit : Visit}
    (hvisit : visit ∈ visits logs world) : ∃ count, visit.requestId = requestIdOf count := by
  have hmem : visit.requestId ∈ (visits logs world).map (·.requestId) := List.mem_map_of_mem hvisit
  rw [map_requestId_visits] at hmem
  obtain ⟨i, -, hid⟩ := List.mem_map.mp hmem
  exact ⟨_, hid.symm⟩

/-- The answer with the number that the outermost of the layers with numbers drew. -/
def numberedBy (visits : List Visit) (response : Response) : Response :=
  match visits.find? (·.log.includeId) with
  | some visit => response.assignHeader "X-Request-ID" visit.requestId
  | none => response

theorem numberedBy_eq (visits : List Visit) (response : Response) :
    ∃ headers, numberedBy visits response = { response with headers } := by
  unfold numberedBy
  split
  · exact ⟨_, rfl⟩
  · exact ⟨response.headers, rfl⟩

@[simp]
theorem numberedBy_stream (visits : List Visit) (response : Response) :
    (numberedBy visits response).stream = response.stream := by
  obtain ⟨_, hnumbered⟩ := numberedBy_eq visits response
  rw [hnumbered]

@[simp]
theorem numberedBy_status (visits : List Visit) (response : Response) :
    (numberedBy visits response).status = response.status := by
  obtain ⟨_, hnumbered⟩ := numberedBy_eq visits response
  rw [hnumbered]

@[simp]
theorem numberedBy_body (visits : List Visit) (response : Response) :
    (numberedBy visits response).body = response.body := by
  obtain ⟨_, hnumbered⟩ := numberedBy_eq visits response
  rw [hnumbered]

theorem get?_numberedBy {name : String} (hname : name ≠ "X-Request-ID") (visits : List Visit)
    (response : Response) :
    (numberedBy visits response).headers.get? name = response.headers.get? name := by
  unfold numberedBy
  split
  · rw [Response.assignHeader, Fields.get?_put, if_neg hname]
  · rfl

/-- The answer is as it was but for its number, which is the one that the outermost of the layers
with numbers drew. -/
structure Numbers (visits : List Visit) (response sent : Response) : Prop where
  exists_headers_eq : ∃ headers, sent = { response with headers }
  get?_eq : ∀ name, name ≠ "X-Request-ID" → sent.headers.get? name = response.headers.get? name
  number_eq : ∀ visit, visits.find? (·.log.includeId) = some visit →
    sent.headers.get? "X-Request-ID" = some visit.requestId
  eq_of_none : visits.find? (·.log.includeId) = none → sent = response

theorem numbers_numberedBy (visits : List Visit) (response : Response) :
    Numbers visits response (numberedBy visits response) := by
  refine ⟨numberedBy_eq visits response, fun name hname => get?_numberedBy hname visits response,
    fun visit hvisit => ?_, fun hnone => ?_⟩
  · simp only [numberedBy, hvisit]
    rw [Response.assignHeader, Fields.get?_put, if_pos rfl]
  · simp only [numberedBy, hnone]

theorem undeclared_numberedBy (visits : List Visit) (hlength : response.Undeclared) :
    (numberedBy visits response).Undeclared := by
  unfold numberedBy
  split
  · exact hlength.assignHeader requestId_ne_contentLength _
  · exact hlength

/-- A layer further out writes its number over those from within. -/
theorem numbered_numberedBy (log : AccessLog) (visits : List Visit) (world : World)
    (response : Response) :
    log.numbered world.drawId.1 (numberedBy visits response) =
      numberedBy (log.visit world :: visits) response := by
  cases hincludes : log.includeId with
  | false =>
      have hskipped : (log.visit world).log.includeId = false := hincludes
      simp only [numbered, hincludes, numberedBy, List.find?_cons, hskipped]
      rfl
  | true =>
      have hvisit : (log.visit world).log.includeId = true := hincludes
      have hfirst : numberedBy (log.visit world :: visits) response =
          response.assignHeader "X-Request-ID" world.drawId.1 := by
        simp only [numberedBy, List.find?_cons, hvisit]
        rfl
      rw [numbered, if_pos hincludes, hfirst]
      unfold numberedBy
      split
      · exact response.assignHeader_assignHeader _ _ _
      · rfl

theorem entry_numberedBy (visits : List Visit) (request : Request) (response : Response) :
    entry request (numberedBy visits response) = entry request response := by
  unfold numberedBy
  split
  next visit _ => exact entry_numbered { includeId := true } visit.requestId request response
  next => rfl

/-- A fault goes through all layers, and each of them writes one record about it on its way. -/
theorem wrap_of_error {inner : Responder} {fault : Fault} (logs : List AccessLog)
    (hinner : inner request (inside logs world) = (.error fault, after)) :
    ∃ left records,
      Middleware.wrap (logs.map toMiddleware) inner request world = (.error fault, left) ∧
        after.Emits left records ∧
        List.Forall₂ (fun visit record => visit.Reports request fault record)
          (visits logs world).reverse records := by
  induction logs generalizing world with
  | nil => exact ⟨after, [], hinner, ⟨_, rfl⟩, .nil⟩
  | cons log rest ih =>
      obtain ⟨middle, records, hrest, hemits, hrecords⟩ := ih hinner
      obtain ⟨left, record, hrespond, hemits', hreports⟩ := log.respond_of_error hrest
      refine ⟨left, _, hrespond, hemits.trans hemits', ?_⟩
      rw [visits, List.reverse_cons]
      exact List.rel_append hrecords (.cons hreports .nil)

/-- An answer goes through all layers, and those that do not skip the path write a record. -/
theorem wrap_of_ok {inner : Responder} (logs : List AccessLog) (hlength : response.Undeclared)
    (hinner : inner request (inside logs world) = (.ok response, after)) :
    ∃ left records,
      Middleware.wrap (logs.map toMiddleware) inner request world =
          (.ok (numberedBy (visits logs world) response), left) ∧
        after.Emits left records ∧
        List.Forall₂ (fun visit record => ∃ length, visit.Records request response length record)
          ((visits logs world).reverse.filter (Visit.notes request.path)) records := by
  induction logs generalizing world with
  | nil => exact ⟨after, [], hinner, ⟨_, rfl⟩, .nil⟩
  | cons log rest ih =>
      obtain ⟨middle, records, hrest, hemits, hrecords⟩ := ih hinner
      have hnumbered := undeclared_numberedBy (visits rest (entered world)) hlength
      obtain ⟨left, records', hrespond, hemits', hrecords'⟩ := log.respond_of_ok hnumbered hrest
      rw [numbered_numberedBy] at hrespond
      refine ⟨left, _, hrespond, hemits.trans hemits', ?_⟩
      rw [visits, List.reverse_cons, List.filter_append]
      refine List.rel_append hrecords (hrecords'.imp fun visit record hrecord => ?_)
      obtain ⟨length, hrecord⟩ := hrecord
      exact ⟨length, hrecord.congr (entry_numberedBy _ _ _) (numberedBy_status _ _)⟩

end AccessLog

end VersionedAssets
