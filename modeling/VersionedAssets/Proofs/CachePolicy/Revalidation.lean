import VersionedAssets.Proofs.Fields
import VersionedAssets.Proofs.Handler.Urls
import VersionedAssets.Proofs.HttpDate

/-! # Sending validators back

A client that sends the tag of a resource back is spared the resource if and only if it has not
changed, to the millisecond; one that sends the date back, if and only if it is not newer, to the
second. Both validators are read as what they were written for, so neither a list of tags nor the
lenient reader of dates gets in between.
-/

namespace VersionedAssets.CachePolicy

open Text

/-! ## Tags -/

theorem entityTag_injective : Function.Injective entityTag := by
  intro m n heq
  have hlists := congrArg String.toList heq
  have hnumerals : (toString m).toList = (toString n).toList := by
    simpa [entityTag] using hlists
  exact toString_int_injective (String.toList_inj.mp hnumerals)

theorem mem_toString {m : Int} {c : Char} (hc : c ∈ (toString m).toList) :
    c = '-' ∨ isAsciiDigit c = true := by
  cases m with
  | ofNat k => exact .inr ((isDecimal_toString k).digits c hc)
  | negSucc k =>
      rw [toList_toString_negSucc] at hc
      exact (List.mem_cons.mp hc).imp_right ((isDecimal_toString (k + 1)).digits c)

/-- A tag is made of quotes, perhaps a sign, and digits. -/
theorem mem_entityTag {m : Int} {c : Char} (hc : c ∈ (entityTag m).toList) :
    c = '"' ∨ c = '-' ∨ isAsciiDigit c = true := by
  simp only [entityTag, String.toList_append, List.mem_append] at hc
  rcases hc with (hquote | hnumeral) | hquote
  · exact .inl (List.mem_singleton.mp hquote)
  · exact .inr (mem_toString hnumeral)
  · exact .inl (List.mem_singleton.mp hquote)

theorem notMem_entityTag {m : Int} {c : Char} (hquote : c ≠ '"') (hdash : c ≠ '-')
    (hdigit : isAsciiDigit c = false) : c ∉ (entityTag m).toList := by
  intro hc
  rcases mem_entityTag hc with hc | hc | hc
  · exact hquote hc
  · exact hdash hc
  · simp [hdigit] at hc

theorem entityTag_isEmpty (m : Int) : (entityTag m).isEmpty = false := by
  rw [← Bool.not_eq_true, String.isEmpty_iff, ← String.toList_inj]
  simp [entityTag]

theorem noBlanks_entityTag (m : Int) : NoBlanks (entityTag m).toList := by
  intro c hc
  rcases mem_entityTag hc with rfl | rfl | hdigit
  · decide
  · decide
  · exact isBlank_of_ascii hdigit

theorem trim_of_noBlanks {text : String} (htext : NoBlanks text.toList) : trim text = text := by
  have hdrop {cs : List Char} (hcs : NoBlanks cs) : cs.dropWhile isBlank = cs := by
    cases cs with
    | nil => rfl
    | cons c rest =>
        exact List.dropWhile_cons_of_neg (by simp [hcs c List.mem_cons_self])
  have hback : NoBlanks text.toList.reverse := fun c hc => htext c (List.mem_reverse.mp hc)
  rw [trim, trimList, hdrop htext, hdrop hback, List.reverse_reverse, String.ofList_toList]

theorem readTag_entityTag (m : Int) : readTag (entityTag m) = entityTag m := by
  have hweak : startsWith (entityTag m) "W/" = false := by
    have hquote : (entityTag m).toList = '"' :: ((toString m).toList ++ ['"']) := by
      simp [entityTag]
    rw [startsWith, hquote]
    rfl
  simp [readTag, trim_of_noBlanks (noBlanks_entityTag m), hweak]

/-- The list that a tag is read as has that tag only. -/
theorem readTags_entityTag (m : Int) : readTags (entityTag m) = [entityTag m] := by
  have hcomma : ',' ∉ (entityTag m).toList :=
    notMem_entityTag (by decide) (by decide) (by decide)
  rw [readTags, pieces, pieceLists_of_notMem hcomma]
  simp [readTag_entityTag, entityTag_isEmpty]

theorem isNewByTags_entityTag (m n : Int) :
    isNewByTags (entityTag m) (entityTag n) = !decide (n = m) := by
  have hstar : "*" ≠ entityTag m := by
    intro heq
    have hnot : '*' ∉ (entityTag m).toList :=
      notMem_entityTag (by decide) (by decide) (by decide)
    exact hnot (heq ▸ by decide)
  simp [isNewByTags, readTags_entityTag, hstar, entityTag_injective.eq_iff]

/-! ## Dates -/

/-- The date of a last-modified time. -/
def dateOf (lastModified : Int) : String := HttpDate.format (Moment.utc lastModified)

theorem isNewByDate_dateOf {m : Int} (hm : Moment.InYears 100 9999 m) (n : Int) :
    isNewByDate (dateOf m) n = .ok (decide (m / 1000 < n / 1000)) := by
  rw [isNewByDate, dateOf, HttpDate.read_format_utc hm]
  simp [Except.map, Moment.toSeconds_utc]

/-! ## Requests with validators -/

section Validators

variable {request : Request} {m : Int}

theorem isModified_of_tag (htags : request.header "if-none-match" "" = entityTag m) (n : Int) :
    isModified request (entityTag n) n = .ok (!decide (n = m)) := by
  simp [isModified, htags, entityTag_isEmpty, isNewByTags_entityTag]

theorem isModified_of_date (hm : Moment.InYears 100 9999 m)
    (htags : request.header "if-none-match" "" = "")
    (hdate : request.header "if-modified-since" "" = dateOf m) (n : Int) :
    isModified request (entityTag n) n = .ok (decide (m / 1000 < n / 1000)) := by
  simp [isModified, htags, hdate, isNewByDate_dateOf hm]

end Validators

/-- The run validated a resource against what the client has: the tag is that of the resource, the
response became "not modified" if and only if the client is spared the resource, and otherwise the
date was written. -/
structure Validates (run : Except Fault Unit × Exchange) (lastModified : Int) (spared : Prop) :
    Prop where
  succeeded : run.1 = .ok ()
  tag : run.2.response.headers.get? "ETag" = some (entityTag lastModified)
  notModified_iff : run.2.response.status = .notModified ↔ spared
  date : run.2.response.headers.get? "Last-Modified" =
    if run.2.response.status = .notModified then none else some (dateOf lastModified)

/-- What validation does with a request for reading, once it is known what the client has. -/
theorem validates_of_isModified (policy : CachePolicy) {request : Request} {n : Int}
    {modified : Bool} (hn : Moment.InYears 1 9999 n)
    (hmethod : request.method = "GET" ∨ request.method = "HEAD")
    (hmodified : isModified request (entityTag n) n = .ok modified) (world : World) :
    Validates (policy.apply request n { world }) n (modified = false) := by
  cases modified with
  | true =>
      have hsends : policy.Sends request n
          ((policy.cacheHeaders n).put "Last-Modified" (dateOf n)) :=
        .modified hmodified (HttpDate.ofMillis_of_inYears hn)
      rw [apply_of_sends hsends world]
      refine ⟨rfl, ?_, by simp, ?_⟩
      · rw [Fields.get?_put]
        rfl
      · rw [Fields.get?_put]
        rfl
  | false =>
      obtain ⟨journal, happly⟩ := apply_of_spares policy ⟨hmethod, hmodified⟩ world
      rw [happly]
      exact ⟨rfl, rfl, by simp, rfl⟩

/-- The validators that a client is given tell exactly what has changed when it sends them back. -/
theorem revalidation_exact (policy later : CachePolicy) {m n : Int}
    (hm : Moment.InYears 100 9999 m) (hn : Moment.InYears 100 9999 n) {first : Request}
    (hfirst : first.method = "GET") (hplain : Handler.Unconditional first) (world : World) :
    ∃ tag date,
      (policy.apply first m { world }).1 = .ok () ∧
      (policy.apply first m { world }).2.response.headers.get? "ETag" = some tag ∧
      (policy.apply first m { world }).2.response.headers.get? "Last-Modified" = some date ∧
      ∀ (request : Request) (now : World), request.method = "GET" ∨ request.method = "HEAD" →
        (request.header "if-none-match" "" = tag →
          Validates (later.apply request n { world := now }) n (n = m)) ∧
        (request.header "if-none-match" "" = "" →
          request.header "if-modified-since" "" = date →
          Validates (later.apply request n { world := now }) n (n / 1000 ≤ m / 1000)) ∧
        (Handler.Unconditional request →
          Validates (later.apply request n { world := now }) n False) := by
  have hmodified := Handler.isModified_of_unconditional hplain (entityTag m) m
  have hgiven := validates_of_isModified policy (hm.of_le (by decide)) (.inl hfirst) hmodified world
  have hdate := hgiven.date
  rw [if_neg (by rw [hgiven.notModified_iff]; decide)] at hdate
  refine ⟨entityTag m, dateOf m, hgiven.succeeded, hgiven.tag, hdate, ?_⟩
  intro request now hmethod
  have hn' : Moment.InYears 1 9999 n := hn.of_le (by decide)
  refine ⟨fun htags => ?_, fun htags hsince => ?_, fun hnone => ?_⟩
  · simpa using validates_of_isModified later hn' hmethod (isModified_of_tag htags n) now
  · simpa using validates_of_isModified later hn' hmethod (isModified_of_date hm htags hsince n) now
  · simpa using validates_of_isModified later hn' hmethod
      (Handler.isModified_of_unconditional hnone (entityTag n) n) now

/-- A change within the second that the client names is not noticed by the date. -/
theorem revalidation_exact_same_second :
    let first : Request := { method := "GET", path := "/app.js" }
    let request : Request :=
      { method := "HEAD", path := "/app.js"
        headers := ⟨[("if-modified-since", "Thu, 01 Jan 1970 00:00:01 GMT")]⟩ }
    let policy : CachePolicy := {}
    (policy.apply first 1500 { world := {} }).1 = .ok () ∧
      Validates (policy.apply request 1999 { world := {} }) 1999
        ((1999 : Int) / 1000 ≤ 1500 / 1000) := by
  intro first request policy
  obtain ⟨tag, date, hfirst, -, hdate, hagain⟩ := revalidation_exact policy policy
    (by decide +kernel : Moment.InYears 100 9999 1500)
    (by decide +kernel : Moment.InYears 100 9999 1999) (rfl : first.method = "GET") ⟨rfl, rfl⟩ {}
  have hwritten : (policy.apply first 1500 { world := {} }).2.response.headers.get?
      "Last-Modified" = some "Thu, 01 Jan 1970 00:00:01 GMT" := by
    decide +kernel
  have hsent : request.header "if-modified-since" "" = date :=
    Option.some.inj (hwritten.symm.trans hdate)
  exact ⟨hfirst, (hagain request {} (.inr rfl)).2.1 rfl hsent⟩

end VersionedAssets.CachePolicy
