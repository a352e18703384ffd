import Mathlib.Data.List.Nodup
import VersionedAssets.Proofs.Fields
import VersionedAssets.Response

/-! # The headers of a response

When a response is sent, the length of a body of bytes, the date and the name of the server are
filled in where nobody wrote them. Headers are told apart by their names as these are written;
clients ignore the case, which comes to the same as long as no two of the names differ by it only.
-/

namespace VersionedAssets.Response

variable {response : Response} {name : String}

theorem header?_assignHeader_of_ne {name other : String} (hne : Text.lower name ≠ Text.lower other)
    (response : Response) (value : String) :
    (response.assignHeader name value).header? other = response.header? other := by
  have hother : (Text.lower name == Text.lower other) = false := beq_eq_false_iff_ne.mpr hne
  exact congrArg (Option.map _)
    (Fields.find?_putEntry (p := fun key => Text.lower key == Text.lower other) hother value _)

theorem assignHeader_assignHeader (response : Response) (name old new : String) :
    (response.assignHeader name old).assignHeader name new = response.assignHeader name new :=
  congrArg (fun headers => { response with headers }) (response.headers.put_put name old new)

/-- Nobody wrote the length of the body among the headers. -/
def Undeclared (response : Response) : Prop := response.header? "Content-Length" = none

namespace Undeclared

theorem congr (hlength : response.Undeclared) {other : Response}
    (hheaders : other.headers = response.headers) : other.Undeclared := by
  rw [Undeclared, header?, hheaders]
  exact hlength

theorem assignHeader (hlength : response.Undeclared) {name : String}
    (hname : Text.lower name ≠ Text.lower "Content-Length") (value : String) :
    (response.assignHeader name value).Undeclared :=
  (header?_assignHeader_of_ne hname response value).trans hlength

theorem get?_eq_none (hlength : response.Undeclared) :
    response.headers.get? "Content-Length" = none := by
  rw [Fields.get?, List.lookup_eq_none_iff]
  intro entry hentry
  rw [Undeclared, header?, Option.map_eq_none_iff, List.find?_eq_none] at hlength
  rw [bne_iff_ne]
  intro hname
  exact hlength entry hentry (by rw [hname]; exact beq_self_eq_true _)

end Undeclared

/-! ## What is filled in -/

theorem announcedLength?_eq_some_iff {n : Nat} :
    response.announcedLength? = some n ↔
      response.stream = none ∧ response.status.allowsBody = true ∧ response.body.length = n := by
  simp [announcedLength?, and_assoc]

/-- The headers with all that is filled in. -/
def sentHeaders (response : Response) (date server : String) : Fields String :=
  (response.framedHeaders.putNew "Date" date).putNew "Server" server

theorem exists_sentHeaders {now : Int} {server : String} {headers : List (String × String)}
    (hitems : response.headerItems now server = .ok headers) :
    ∃ date, headers = (response.sentHeaders date server).entries ∧
      (response.framedHeaders.has "Date" = false → HttpDate.ofMillis now = .ok date) := by
  unfold headerItems at hitems
  dsimp only at hitems
  cases hdated : response.framedHeaders.has "Date" with
  | true =>
      have hkept : response.framedHeaders.putNew "Date" "" = response.framedHeaders := if_pos hdated
      rw [if_pos hdated] at hitems
      refine ⟨"", ?_, fun hundated => by cases hundated⟩
      rw [sentHeaders, hkept]
      exact (Except.ok.inj hitems).symm
  | false =>
      have hundated : ¬ response.framedHeaders.has "Date" = true := by
        rw [hdated]
        exact Bool.false_ne_true
      rw [if_neg hundated] at hitems
      cases hdate : HttpDate.ofMillis now with
      | error fault =>
          rw [hdate] at hitems
          cases hitems
      | ok date =>
          rw [hdate] at hitems
          have hnew : response.framedHeaders.putNew "Date" date =
              response.framedHeaders.put "Date" date := if_neg hundated
          refine ⟨date, ?_, fun _ => rfl⟩
          rw [sentHeaders, hnew]
          exact (Except.ok.inj hitems).symm

section

variable {date server : String}

theorem get?_framedHeaders (response : Response) (name : String) :
    response.framedHeaders.get? name =
      if name = "Content-Length" then
        (response.headers.get? name).or (response.announcedLength?.map toString)
      else response.headers.get? name := by
  unfold framedHeaders
  cases response.announcedLength? with
  | none => simp
  | some n =>
      by_cases hname : name = "Content-Length"
      · simp only [Fields.get?_putNew, hname]
        cases response.headers.get? "Content-Length" <;> rfl
      · simp [Fields.get?_putNew, hname]

theorem get?_sentHeaders_of_ne (hlength : name ≠ "Content-Length") (hdate : name ≠ "Date")
    (hserver : name ≠ "Server") :
    (response.sentHeaders date server).get? name = response.headers.get? name := by
  simp [sentHeaders, Fields.get?_putNew, get?_framedHeaders, hlength, hdate, hserver]

theorem get?_sentHeaders_length (hlength : response.Undeclared) :
    (response.sentHeaders date server).get? "Content-Length" =
      response.announcedLength?.map toString := by
  simp [sentHeaders, Fields.get?_putNew, get?_framedHeaders, hlength.get?_eq_none]

theorem exists_get?_date (response : Response) (date server : String) :
    ∃ value, (response.sentHeaders date server).get? "Date" = some value := by
  simp [sentHeaders, Fields.get?_putNew]

theorem exists_get?_server (response : Response) (date server : String) :
    ∃ value, (response.sentHeaders date server).get? "Server" = some value := by
  simp [sentHeaders, Fields.get?_putNew]

theorem filledBy_sentHeaders {p : String × String → Prop} (hfilled : response.headers.FilledBy p)
    (hlength : ∀ n : Nat, p ("Content-Length", toString n))
    (hdate : response.framedHeaders.has "Date" = false → p ("Date", date))
    (hserver : p ("Server", server)) : (response.sentHeaders date server).FilledBy p := by
  have hframed : response.framedHeaders.FilledBy p := by
    unfold framedHeaders
    split
    next n _ => exact hfilled.putNew fun _ => hlength n
    next => exact hfilled
  exact (hframed.putNew hdate).putNew fun _ => hserver

end

/-! ## Names in whatever case -/

/-- The headers with the name, in whatever case it is written. -/
def named (name : String) (headers : List (String × String)) : List (String × String) :=
  headers.filter fun header => Text.lower header.1 == Text.lower name

/-- The names that headers are written under. -/
def headerNames : List String :=
  ["Cache-Control", "ETag", "Last-Modified", "Content-Type", "Content-Disposition", "Allow",
    "X-Request-ID", "Content-Length", "Date", "Server"]

theorem nodup_headerNames : (headerNames.map Text.lower).Nodup := by decide +kernel

/-- None of the names is another one in another case. -/
theorem lower_inj {other : String} (hname : name ∈ headerNames) (hother : other ∈ headerNames) :
    Text.lower name = Text.lower other ↔ name = other := by
  constructor
  · intro hlower
    exact List.inj_on_of_nodup_map nodup_headerNames hname hother hlower
  · intro heq
    rw [heq]

section

variable {fields : Fields String} {date server : String}

theorem nodup_lower (hfilled : fields.FilledBy fun header => header.1 ∈ headerNames) :
    (fields.entries.map fun header => Text.lower header.1).Nodup := by
  have hmap : (fields.entries.map fun header => Text.lower header.1) =
      fields.names.map Text.lower := by simp [Fields.names]
  rw [hmap]
  refine hfilled.nodup.map_on ?_
  intro name hname other hother hlower
  obtain ⟨entry, hentry, rfl⟩ := List.mem_map.mp hname
  obtain ⟨entry', hentry', rfl⟩ := List.mem_map.mp hother
  exact (lower_inj (hfilled.all entry hentry) (hfilled.all entry' hentry')).mp hlower

theorem named_entries (hfilled : fields.FilledBy fun header => header.1 ∈ headerNames)
    (hname : name ∈ headerNames) :
    named name fields.entries = ((fields.get? name).map fun value => (name, value)).toList := by
  rw [named, ← hfilled.filter_entries]
  refine List.filter_congr ?_
  intro header hheader
  rw [Bool.eq_iff_iff, beq_iff_eq, beq_iff_eq]
  exact lower_inj (hfilled.all header hheader) hname

theorem filledBy_sentHeaders_names
    (hfilled : response.headers.FilledBy fun header => header.1 ∈ headerNames) :
    (response.sentHeaders date server).FilledBy fun header => header.1 ∈ headerNames :=
  filledBy_sentHeaders hfilled (fun _ => by simp [headerNames]) (fun _ => by simp [headerNames])
    (by simp [headerNames])

theorem named_length (hfilled : response.headers.FilledBy fun header => header.1 ∈ headerNames)
    (hlength : response.Undeclared) :
    named "Content-Length" (response.sentHeaders date server).entries =
      (response.announcedLength?.map fun n => ("Content-Length", toString n)).toList := by
  rw [named_entries (filledBy_sentHeaders_names hfilled) (by simp [headerNames]),
    get?_sentHeaders_length hlength, Option.map_map]
  rfl

theorem exists_named_date
    (hfilled : response.headers.FilledBy fun header => header.1 ∈ headerNames) :
    ∃ value, named "Date" (response.sentHeaders date server).entries = [("Date", value)] := by
  obtain ⟨value, hvalue⟩ := response.exists_get?_date date server
  rw [named_entries (filledBy_sentHeaders_names hfilled) (by simp [headerNames]), hvalue]
  exact ⟨value, rfl⟩

theorem exists_named_server
    (hfilled : response.headers.FilledBy fun header => header.1 ∈ headerNames) :
    ∃ value, named "Server" (response.sentHeaders date server).entries = [("Server", value)] := by
  obtain ⟨value, hvalue⟩ := response.exists_get?_server date server
  rw [named_entries (filledBy_sentHeaders_names hfilled) (by simp [headerNames]), hvalue]
  exact ⟨value, rfl⟩

end

end VersionedAssets.Response
