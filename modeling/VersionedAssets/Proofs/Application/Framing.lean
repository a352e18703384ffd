import VersionedAssets.Proofs.Application.Headers
import VersionedAssets.Proofs.Response.Draining

/-! # How replies are framed

A client finds out where a reply ends by its length, if that is announced, so the length has to be
that of the bytes that follow. It is announced for bodies of bytes and for no others, and everything
else that frames a reply stands in its headers once.
-/

namespace VersionedAssets

namespace Reader

theorem collect_of_no_stream {response : Response} (hstream : response.stream = none) (size : Int)
    (streams : List Stream) :
    (fresh size).collect .all { response, streams } =
      (if response.body.isEmpty then [] else [response.body], .ok (), .finished,
        { response, streams }) := by
  rw [collect, drain_of_no_stream hstream]
  rfl

end Reader

namespace Application

namespace Reply

/-- What one iteration over the body of a reply yields, and how it ends. -/
def chunks (reply : Reply) (streams : List Stream) : List Bytes × Except Fault Unit :=
  match reply.body with
  | none => ([], .ok ())
  | some response =>
    let run := (Reader.fresh Reader.defaultSize).collect .all { response, streams }
    (run.1, run.2.1)

/-- The number of bytes that it yields. -/
def size (reply : Reply) (streams : List Stream) : Nat :=
  ((reply.chunks streams).1.map List.length).sum

end Reply

/-- The reply with the answer ends where its headers say. -/
structure IsFramed (isHead : Bool) (response : Response) (streams : List Stream) (reply : Reply) :
    Prop where
  status_eq : reply.status = response.status.line
  /-- No header stands twice, in whatever case. -/
  nodup : (reply.headers.map fun header => Text.lower header.1).Nodup
  exists_date : ∃ date, Response.named "Date" reply.headers = [("Date", date)]
  exists_server : ∃ server, Response.named "Server" reply.headers = [("Server", server)]
  announces_iff : Response.named "Content-Length" reply.headers ≠ [] ↔
    response.status.allowsBody = true ∧ response.stream = none
  /-- The length is that of what follows, unless only the head was asked for. -/
  length_eq : isHead = false → ∀ header ∈ Response.named "Content-Length" reply.headers,
    header.2 = toString (reply.size streams) ∧ (reply.chunks streams).2 = .ok ()
  bodiless : isHead = true ∨ response.status = .noContent ∨ response.status = .notModified →
    reply.chunks streams = ([], .ok ())

/-- What a reply with a body of bytes yields. -/
theorem size_of_no_stream {reply : Reply} {response : Response} (hbody : reply.body = some response)
    (hstream : response.stream = none) (streams : List Stream) :
    reply.size streams = response.body.length ∧ (reply.chunks streams).2 = .ok () := by
  simp only [Reply.size, Reply.chunks, hbody, Reader.collect_of_no_stream hstream]
  cases response.body with
  | nil => simp
  | cons byte rest => simp

/-- Every reply is framed, through however many layers it came. -/
theorem reply_isFramed {app : Application} (hlogged : app.IsLogged) {environ : Environ}
    {world left : World} {reply : Reply} (hreply : app.reply environ world = (.ok reply, left)) :
    ∃ response after, app.handleRequest (Request.ofEnviron environ) world = (.ok response, after) ∧
      IsFramed (Request.ofEnviron environ).isHead response left.streams reply := by
  obtain ⟨response, after, hanswer, hstatus, hitems, hserved⟩ := reply_eq_ok hreply
  refine ⟨response, after, hanswer, ?_⟩
  obtain ⟨logs, given, opened, hgives, hresponse⟩ := exists_gives_of_handleRequest hlogged hanswer
  have hnames : response.headers.FilledBy fun header => header.1 ∈ Response.headerNames := by
    rw [hresponse]
    exact (hgives.filledBy_numberedBy logs world _).mono fun _ => Writes.name_mem
  have hundeclared : response.Undeclared := by
    rw [hresponse]
    exact hgives.undeclared_numberedBy _ _
  obtain ⟨date, hheaders, -⟩ := Response.exists_sentHeaders hitems
  have hlength : Response.named "Content-Length" reply.headers =
      (response.announcedLength?.map fun n => ("Content-Length", toString n)).toList := by
    rw [hheaders]
    exact Response.named_length hnames hundeclared
  constructor
  case status_eq => exact hstatus
  case nodup =>
    rw [hheaders]
    exact Response.nodup_lower (Response.filledBy_sentHeaders_names hnames)
  case exists_date =>
    rw [hheaders]
    exact Response.exists_named_date hnames
  case exists_server =>
    rw [hheaders]
    exact Response.exists_named_server hnames
  case announces_iff =>
    rw [hlength]
    simp [Response.announcedLength?, and_comm]
  case length_eq =>
    intro hhead header hheader
    obtain ⟨n, hannounced, rfl⟩ : ∃ n, response.announcedLength? = some n ∧
        ("Content-Length", toString n) = header := by simpa [hlength] using hheader
    obtain ⟨hstream, hbody, rfl⟩ := Response.announcedLength?_eq_some_iff.mp hannounced
    -- what has a length has a body, which the server was given as only the head has none
    rcases hserved with ⟨hhead' | hbody', -⟩ | ⟨-, -, hgiven, -⟩
    · cases hhead.symm.trans hhead'
    · cases hbody.symm.trans hbody'
    · obtain ⟨hsize, hended⟩ := size_of_no_stream hgiven hstream left.streams
      exact ⟨by rw [hsize], hended⟩
  case bodiless =>
    intro hbodiless
    rcases hserved with ⟨-, hnone⟩ | ⟨hhead, hbody, -, -⟩
    · rw [Reply.chunks, hnone]
    · rcases hbodiless with hhead' | hstatus' | hstatus'
      · cases hhead.symm.trans hhead'
      · rw [hstatus'] at hbody
        cases hbody
      · rw [hstatus'] at hbody
        cases hbody

/-- A path without a handler is answered with 42 bytes that are announced. -/
theorem reply_isFramed_unmounted :
    let app : Application := { layers := [AccessLog.toMiddleware {}] }
    let environ : Environ := ⟨[("REQUEST_METHOD", "GET"), ("PATH_INFO", "/x.js")]⟩
    ∃ response reply left, app.reply environ {} = (.ok reply, left) ∧
      IsFramed false response left.streams reply ∧
        Response.named "Content-Length" reply.headers = [("Content-Length", "42")] := by
  intro app environ
  have hlength : (app.reply environ {}).1.map (fun reply =>
      Response.named "Content-Length" reply.headers) = .ok [("Content-Length", "42")] := by
    decide +kernel
  have hhead : (Request.ofEnviron environ).isHead = false := by decide +kernel
  rcases hreply : app.reply environ {} with ⟨fault | reply, left⟩
  · rw [hreply] at hlength
    cases hlength
  · rw [hreply] at hlength
    obtain ⟨response, -, -, hframed⟩ := reply_isFramed ⟨[{}], rfl⟩ hreply
    rw [hhead] at hframed
    exact ⟨response, reply, left, rfl, hframed, Except.ok.inj hlength⟩

end Application

end VersionedAssets
