import VersionedAssets.Proofs.Fields
import VersionedAssets.Proofs.Response.Operations

/-! # The name of a download

The name of a download is sent between quotes, with a backslash before every quote and every
backslash in it. A reader for whom a backslash makes the next character an ordinary one stops at the
closing quote and nowhere before, so that a name can neither end its header early nor be mistaken
for another.
-/

namespace VersionedAssets

namespace Response

/-- Reads from behind an opening quote to the closing one: gives what is between them, with a
character after a backslash taken as it is, and what follows the closing quote. -/
def readQuoted : List Char → Option (List Char × List Char)
  | [] => none
  | '"' :: rest => some ([], rest)
  | ['\\'] => none
  | '\\' :: c :: rest => (readQuoted rest).map fun (name, after) => (c :: name, after)
  | c :: rest => (readQuoted rest).map fun (name, after) => (c :: name, after)

/-- The header value is read as the name of a download and ends where the name does. -/
def ReadsAs (value filename : String) : Prop :=
  ∃ rest, value = "attachment; filename=\"" ++ rest ∧
    readQuoted rest.toList = some (filename.toList, [])

/-- The text with other characters in the place of each `old` one. -/
def substitute (old : Char) (new : List Char) (text : String) : String :=
  String.ofList (text.toList.flatMap fun c => if c = old then new else [c])

/-- Escaping is two substitutions in a row. The one for quotes comes second, so that its backslashes
are not escaped again. -/
theorem escapeName_eq_substitute (filename : String) :
    escapeName filename =
      substitute '"' ['\\', '"'] (substitute '\\' ['\\', '\\'] filename) := by
  rw [escapeName, substitute, substitute, String.toList_ofList, List.flatMap_assoc]
  refine congrArg (fun write => String.ofList (filename.toList.flatMap write)) (funext fun c => ?_)
  by_cases hbackslash : c = '\\'
  · simp [hbackslash]
  · simp [hbackslash]

/-- The character as it is written between quotes. -/
theorem toList_escapeName_cons (c : Char) (rest : List Char) :
    (escapeName (String.ofList (c :: rest))).toList =
      (if c = '\\' then ['\\', '\\'] else if c = '"' then ['\\', '"'] else [c]) ++
        (escapeName (String.ofList rest)).toList := by
  simp [escapeName]

/-- A reader gives an escaped name back, and what follows it. -/
theorem readQuoted_escapeName (name after : List Char) :
    readQuoted ((escapeName (String.ofList name)).toList ++ '"' :: after) =
      some (name, after) := by
  induction name with
  | nil => rfl
  | cons c rest ih =>
      rw [toList_escapeName_cons, List.append_assoc]
      by_cases hbackslash : c = '\\'
      · simp [hbackslash, readQuoted, ih]
      · by_cases hquote : c = '"'
        · simp [hquote, readQuoted, ih]
        · simp [hbackslash, hquote, readQuoted, ih]

theorem readsAs_disposition (filename : String) : ReadsAs (disposition filename) filename := by
  refine ⟨escapeName filename ++ "\"", String.append_assoc, ?_⟩
  have hread := readQuoted_escapeName filename.toList []
  have hquote : "\"".toList = ['"'] := by simp
  rw [String.ofList_toList] at hread
  rw [String.toList_append, hquote, hread]

/-- A value is read as one name at most. -/
theorem ReadsAs.unique {value filename other : String} (hreads : ReadsAs value filename)
    (hother : ReadsAs value other) : other = filename := by
  obtain ⟨rest, hvalue, hread⟩ := hreads
  obtain ⟨rest', hvalue', hread'⟩ := hother
  have hlists := congrArg String.toList (hvalue.symm.trans hvalue')
  rw [String.toList_append, String.toList_append] at hlists
  obtain rfl : rest = rest' := String.toList_inj.mp (List.append_cancel_left hlists)
  obtain ⟨hname, -⟩ := Prod.mk.inj (Option.some.inj (hread.symm.trans hread'))
  exact String.toList_inj.mp hname.symm

theorem disposition_injective : Function.Injective disposition := by
  intro filename other hsame
  have hother := readsAs_disposition other
  rw [← hsame] at hother
  exact hother.unique (readsAs_disposition filename)

theorem get?_assignHeader (response : Response) (name value : String) :
    (response.assignHeader name value).headers.get? name = some value := by
  rw [assignHeader, Fields.get?_put, if_pos rfl]

end Response

namespace Sink

open Actions Response

/-- How writing a download ends: it fails and has written no header, or the response has the name,
in which backslashes and then quotes were escaped. -/
inductive WritesName (sink : Sink) (filename : String) : Except Fault Unit × Sink → Prop
  /-- A response that is committed is left alone. -/
  | committed (hcommitted : sink.response.committed = true) :
      WritesName sink filename (.error .committed, sink)
  /-- The stream that the response owned so far fails to close. -/
  | stuck {number : Nat} {stream : Stream} {fault : Fault} {after : Sink}
      (hopen : sink.response.committed = false) (howned : sink.response.stream = some number)
      (hstream : sink.streams[number]? = some stream) (hclose : stream.close.1 = .error fault)
      (hheaders : after.response.headers = sink.response.headers) :
      WritesName sink filename (.error fault, after)
  /-- In all other cases the name is written. -/
  | named {after : Sink} {value : String} (hopen : sink.response.committed = false)
      (hvalue : after.response.headers.get? "Content-Disposition" = some value)
      (hwritten : value = "attachment; filename=\"" ++
        substitute '"' ['\\', '"'] (substitute '\\' ['\\', '\\'] filename) ++ "\"")
      (hreads : ∀ other, ReadsAs value other ↔ other = filename) :
      WritesName sink filename (.ok (), after)

/-- Whatever its name, a download is named by a value that is read as this name and no other, and
two names are never written as one value. -/
theorem attachFile_writesName (filename : String) (number : Nat) (sink : Sink) :
    sink.WritesName filename (attachFile filename number sink) ∧
      Function.Injective disposition := by
  refine ⟨?_, disposition_injective⟩
  have hreads := readsAs_disposition filename
  cases hcommitted : sink.response.committed with
  | true =>
      rw [attachFile_of_committed hcommitted]
      exact .committed hcommitted
  | false =>
      have hheaders := congrArg Response.headers sink.release_response
      have hopen := checkOpen_of_open hcommitted
      rw [attachFile, attach]
      rcases hrelease : release sink with ⟨_ | _, after⟩
      · obtain ⟨number, stream, howned, hstream, hclose⟩ := exists_owned_of_release hrelease
        rw [hrelease] at hheaders
        rw [bind_of_error (by rw [bind_of_ok hopen, bind_of_error hrelease])]
        exact .stuck hcommitted howned hstream hclose hheaders
      · rw [bind_of_ok (by rw [bind_of_ok hopen, bind_of_ok hrelease]; rfl)]
        refine .named hcommitted (get?_assignHeader _ _ _) ?_ fun other => ⟨hreads.unique, ?_⟩
        · unfold disposition
          rw [escapeName_eq_substitute]
        · rintro rfl
          exact hreads

end Sink

end VersionedAssets
