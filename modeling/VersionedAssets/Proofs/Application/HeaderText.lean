import VersionedAssets.Proofs.Application.Headers
import VersionedAssets.Proofs.Text.Native

/-! # What headers are made of

Applications with the standard media types write headers that a server takes as they are, but for
one: the name under which a download is saved comes from the store as it is, with quotes and
backslashes escaped and nothing else. So the headers of a reply are right unless a file is
downloaded whose name a server cannot take.
-/

namespace VersionedAssets

open Text

/-! ## The values of headers -/

theorem HttpDate.isNative_format (t : DateTime) : IsNative (format t) := by
  have hdays : ∀ name ∈ dayNames, IsNative name := by decide
  have hmonths : ∀ name ∈ monthNames, IsNative name := by decide
  have hday := isNative_getD hdays (Calendar.weekday t.date)
  have hmonth := isNative_getD hmonths (t.date.month - 1)
  have hdigits (n : Nat) : IsNative (twoDigits n) := isNative_of_isDecimal (isDecimal_twoDigits n)
  simp only [format, isNative_append, hday, hmonth, hdigits, isNative_toString_int, true_and]
  decide

theorem HttpDate.isNative_ofMillis {millis : Int} {date : String}
    (hdate : ofMillis millis = .ok date) : IsNative date := by
  unfold ofMillis at hdate
  cases hmoment : Moment.ofMillis millis with
  | error fault =>
      rw [hmoment] at hdate
      cases hdate
  | ok t =>
      rw [hmoment] at hdate
      obtain rfl := Except.ok.inj hdate
      exact isNative_format t

theorem CachePolicy.isNative_control (policy : CachePolicy) : IsNative policy.control := by
  unfold control
  split
  · exact isNative_append.mpr ⟨by decide, isNative_toString_nat _⟩
  · decide

theorem CachePolicy.isNative_entityTag (lastModified : Int) :
    IsNative (entityTag lastModified) := by
  simp only [entityTag, isNative_append, isNative_toString_int]
  decide

namespace MediaTypes

theorem isNative_contentType? {path contentType : String}
    (hknown : default.contentType? path = some contentType) : IsNative contentType := by
  obtain ⟨mediaType, htype, rfl⟩ := Option.map_eq_some_iff.mp hknown
  have hstandard : (Fields.ofList standard).FilledBy fun entry => IsNative entry.2 :=
    .ofList (by decide)
  have hnative : IsNative mediaType := hstandard.all (_, mediaType) (hstandard.mem_iff.mpr htype)
  unfold withCharset
  split
  · exact isNative_append.mpr ⟨isNative_append.mpr ⟨hnative, by decide⟩, by decide⟩
  · exact hnative

theorem isNative_downloadType (filename : String) : IsNative (downloadType filename) := by
  unfold downloadType
  cases hknown : nonEmpty? (default.contentType? filename) with
  | none => decide
  | some contentType => exact isNative_contentType? (Option.filter_eq_some_iff.mp hknown).1

end MediaTypes

namespace Response

theorem isNative_escapeName {filename : String} :
    IsNative (escapeName filename) ↔ IsNative filename := by
  simp only [IsNative, escapeName, String.toList_ofList, List.mem_flatMap]
  constructor
  · intro hescaped c hc
    refine hescaped c ⟨c, hc, ?_⟩
    split
    next hbackslash => simp [hbackslash]
    next => split <;> simp_all
  · rintro hnative c ⟨plain, hplain, hc⟩
    have hbackslash : isNativeChar '\\' = true := by decide
    -- what is written for a character is that character, perhaps after a backslash
    have hchars : c = '\\' ∨ c = plain := by
      split at hc
      next hplain => simp_all
      next => split at hc <;> simp_all
    rcases hchars with rfl | rfl
    · exact hbackslash
    · exact hnative c hplain

/-- The escapes change nothing about which names a server takes. -/
theorem isNative_disposition {filename : String} :
    IsNative (disposition filename) ↔ IsNative filename := by
  unfold disposition
  constructor
  · intro hnative
    have hquoted := (isNative_append.mp hnative).1
    exact isNative_escapeName.mp (isNative_append.mp hquoted).2
  · intro hnative
    have hfront : IsNative "attachment; filename=\"" := by decide
    have hquoted := isNative_append.mpr ⟨hfront, isNative_escapeName.mpr hnative⟩
    exact isNative_append.mpr ⟨hquoted, by decide⟩

end Response

namespace Application

variable {app : Application} {request : Request} {host : Host}

theorem Writes.isNative_name {name value : String}
    (hwrites : app.Writes request host (name, value)) : IsNative name := by
  cases hwrites <;> decide

/-- All values but one are made of nothing that a store has a say in. -/
theorem Writes.isNative_or_disposition
    (hstandard : ∀ handler ∈ app.handlers, handler.mediaTypes = MediaTypes.default)
    {name value : String} (hwrites : app.Writes request host (name, value)) :
    IsNative value ∨ ∃ filename, app.Downloads request host filename ∧
      name = "Content-Disposition" ∧ value = Response.disposition filename := by
  cases hwrites with
  | disposition hdownloads => exact .inr ⟨_, hdownloads, rfl, rfl⟩
  | jsonType => exact .inl (by decide)
  | allow => exact .inl (by decide +kernel)
  | cacheControl policy => exact .inl policy.isNative_control
  | entityTag lastModified => exact .inl (CachePolicy.isNative_entityTag lastModified)
  | lastModified hdate => exact .inl (HttpDate.isNative_ofMillis hdate)
  | mediaType hmem hknown =>
      rw [hstandard _ hmem] at hknown
      exact .inl (MediaTypes.isNative_contentType? (Option.filter_eq_some_iff.mp hknown).1)
  | downloadType filename => exact .inl (MediaTypes.isNative_downloadType filename)
  | requestId count => exact .inl (isNative_hex 8 count)
  | length n => exact .inl (isNative_toString_nat n)
  | date hdate => exact .inl (HttpDate.isNative_ofMillis hdate)
  | server => exact .inl (by decide)

/-- A server takes all headers of a reply as they are, unless a file is downloaded under a name that
it cannot take. -/
theorem reply_isNative_iff {app : Application} (hlogged : app.IsLogged)
    (hstandard : ∀ handler ∈ app.handlers, handler.mediaTypes = MediaTypes.default)
    {environ : Environ} {world left : World} {reply : Reply}
    (hreply : app.reply environ world = (.ok reply, left)) :
    (∀ name value, (name, value) ∈ reply.headers → IsNative name ∧
      (IsNative value ∨ ∃ filename,
        app.Downloads (Request.ofEnviron environ) world.host filename ∧
          name = "Content-Disposition" ∧ value = Response.disposition filename)) ∧
    ((∀ name value, (name, value) ∈ reply.headers → IsNative value) ↔
      ∀ filename, app.Downloads (Request.ofEnviron environ) world.host filename →
        IsNative filename) := by
  obtain ⟨response, after, hanswer, -, hitems, -⟩ := reply_eq_ok hreply
  obtain ⟨logs, given, opened, hgives, rfl⟩ := exists_gives_of_handleRequest hlogged hanswer
  obtain ⟨date, hheaders, hfilled⟩ :=
    exists_sentHeaders_of_reply hitems (hgives.filledBy_numberedBy logs world _)
  have hwrites : ∀ name value, (name, value) ∈ reply.headers →
      app.Writes (Request.ofEnviron environ) world.host (name, value) := by
    intro name value hheader
    rw [hheaders] at hheader
    exact hfilled.all _ hheader
  refine ⟨?_, ?_, ?_⟩
  · intro name value hheader
    have hwritten := hwrites name value hheader
    exact ⟨hwritten.isNative_name, hwritten.isNative_or_disposition hstandard⟩
  · intro hnative filename hdownloads
    -- the request comes to one answer only, so the name is among the headers
    obtain ⟨download, opened', hdownload, hname⟩ := hdownloads.exists_gives
    obtain rfl := Except.ok.inj (hdownload.unique hgives).1
    have hsent : ("Content-Disposition", Response.disposition filename) ∈ reply.headers := by
      rw [hheaders, hfilled.mem_iff,
        Response.get?_sentHeaders_of_ne (by decide) (by decide) (by decide),
        AccessLog.get?_numberedBy (by decide)]
      exact hname
    exact Response.isNative_disposition.mp (hnative _ _ hsent)
  · intro hnames name value hheader
    rcases (hwrites name value hheader).isNative_or_disposition hstandard with
      hnative | ⟨filename, hdownloads, -, rfl⟩
    · exact hnative
    · exact Response.isNative_disposition.mpr (hnames filename hdownloads)

/-- A store with one file, of a type that nobody knows. -/
def downloadStore (filename : String) : Store where
  name := "store"
  lookup _ _ := .silent (.ok (some
    { uri := "memory:file", filename, modified := fun _ => .ok (.whole 5)
      content := fun _ => .ok { rest := [120] } }))

/-- A name with a quote and a letter that is not in ASCII is taken as it is. -/
theorem reply_isNative_iff_quoted :
    let app : Application :=
      { handlers := [.ofStore "" (downloadStore "\"é\".bin")]
        layers := [AccessLog.toMiddleware {}] }
    let environ : Environ := ⟨[("REQUEST_METHOD", "GET"), ("PATH_INFO", "/x")]⟩
    ∃ reply left, app.reply environ {} = (.ok reply, left) ∧
      ("Content-Disposition", "attachment; filename=\"\\\"é\\\".bin\"") ∈ reply.headers ∧
      ∀ name value, (name, value) ∈ reply.headers → IsNative value := by
  intro app environ
  have hdisposition : (app.reply environ {}).1.map (fun reply =>
      reply.headers.contains
        ("Content-Disposition", "attachment; filename=\"\\\"é\\\".bin\"")) = .ok true := by
    decide +kernel
  have hstandard : ∀ handler ∈ app.handlers, handler.mediaTypes = MediaTypes.default := by
    intro handler hmem
    rw [List.mem_singleton.mp hmem]
    rfl
  rcases hreply : app.reply environ {} with ⟨fault | reply, left⟩
  · rw [hreply] at hdisposition
    cases hdisposition
  · rw [hreply] at hdisposition
    have hmem : ("Content-Disposition", "attachment; filename=\"\\\"é\\\".bin\"") ∈ reply.headers :=
      List.contains_iff_mem.mp (Except.ok.inj hdisposition)
    refine ⟨reply, left, rfl, hmem, (reply_isNative_iff ⟨[{}], rfl⟩ hstandard hreply).2.mpr ?_⟩
    rintro filename ⟨hreaches, -, -, -, -⟩
    obtain rfl := List.mem_singleton.mp hreaches.toRoutes.mem
    obtain rfl := Option.some.inj (Except.ok.inj hreaches.found)
    decide

/-- A line feed in a name goes into the header as it is. -/
theorem reply_not_isNative :
    let app : Application := { handlers := [.ofStore "" (downloadStore "a\nb.bin")] }
    let environ : Environ := ⟨[("REQUEST_METHOD", "GET"), ("PATH_INFO", "/a\nb.bin")]⟩
    ∃ reply, (app.reply environ {}).1 = .ok reply ∧
      ∃ name value, (name, value) ∈ reply.headers ∧ ¬ IsNative value := by
  intro app environ
  have hnative : (app.reply environ {}).1.map (fun reply =>
      reply.headers.all fun header => decide (IsNative header.2)) = .ok false := by
    decide +kernel
  cases hreply : (app.reply environ {}).1 with
  | error fault =>
      rw [hreply] at hnative
      cases hnative
  | ok reply =>
      rw [hreply] at hnative
      refine ⟨reply, rfl, ?_⟩
      simpa [Except.map] using hnative

end Application

end VersionedAssets
