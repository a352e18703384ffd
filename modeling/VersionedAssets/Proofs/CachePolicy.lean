import VersionedAssets.CachePolicy
import VersionedAssets.Proofs.Response.Sink
import VersionedAssets.Proofs.World

/-! # What validation comes to

Applying a policy to a fresh response has three ends: the resource is to be sent, with the headers
for caches; the response becomes "not modified"; or a date cannot be read or written, and nothing
but the headers was done.
-/

namespace VersionedAssets.CachePolicy

open Actions Handling

/-- The headers for caches that every answer with a resource has. -/
def cacheHeaders (policy : CachePolicy) (lastModified : Int) : Fields String :=
  ⟨[("Cache-Control", policy.control), ("ETag", entityTag lastModified)]⟩

/-- The resource is to be sent with these headers: the date is among them when the client does not
have the resource, and only requests for reading it may be spared it. -/
inductive Sends (policy : CachePolicy) (request : Request) (lastModified : Int) :
    Fields String → Prop
  | modified {date : String}
      (hmodified : isModified request (entityTag lastModified) lastModified = .ok true)
      (hdate : HttpDate.ofMillis lastModified = .ok date) :
      Sends policy request lastModified
        ((policy.cacheHeaders lastModified).put "Last-Modified" date)
  | notForReading
      (hmodified : isModified request (entityTag lastModified) lastModified = .ok false)
      (hmethod : request.isConditional = false) :
      Sends policy request lastModified (policy.cacheHeaders lastModified)

/-- The client has the resource, and asked to read it. -/
def Spares (request : Request) (lastModified : Int) : Prop :=
  (request.method = "GET" ∨ request.method = "HEAD") ∧
    isModified request (entityTag lastModified) lastModified = .ok false

theorem isConditional_iff (request : Request) :
    request.isConditional = true ↔ request.method = "GET" ∨ request.method = "HEAD" := by
  simp [Request.isConditional]

/-- The date that the client sent cannot be read, or the one of the resource cannot be written. -/
def FailsWith (request : Request) (lastModified : Int) (fault : Fault) : Prop :=
  isModified request (entityTag lastModified) lastModified = .error fault ∨
    isModified request (entityTag lastModified) lastModified = .ok true ∧
      HttpDate.ofMillis lastModified = .error fault

section

variable {policy : CachePolicy} {request : Request} {lastModified : Int} {headers : Fields String}
  {fault : Fault}

theorem Sends.not_spares (hsends : policy.Sends request lastModified headers) :
    ¬ Spares request lastModified := by
  rintro ⟨hconditional, hspared⟩
  rw [← isConditional_iff] at hconditional
  cases hsends with
  | modified hmodified _ => simp [hmodified] at hspared
  | notForReading _ hmethod => simp [hmethod] at hconditional

theorem FailsWith.not_spares (hfails : FailsWith request lastModified fault) :
    ¬ Spares request lastModified := by
  rintro ⟨-, hspared⟩
  rcases hfails with hmodified | ⟨hmodified, -⟩ <;> simp [hmodified] at hspared

theorem FailsWith.not_sends (hfails : FailsWith request lastModified fault) :
    ¬ policy.Sends request lastModified headers := by
  intro hsends
  rcases hfails with hfailed | ⟨hfailed, hundated⟩
  · cases hsends with
    | modified hmodified _ => simp [hmodified] at hfailed
    | notForReading hmodified _ => simp [hmodified] at hfailed
  · cases hsends with
    | modified _ hdate => simp [hdate] at hundated
    | notForReading hmodified _ => simp [hmodified] at hfailed

theorem FailsWith.unique {other : Fault} (hfails : FailsWith request lastModified fault)
    (hother : FailsWith request lastModified other) : other = fault := by
  rcases hfails with hfailed | ⟨hfailed, hundated⟩
  · rcases hother with hother | ⟨hother, -⟩ <;> simp_all
  · rcases hother with hother | ⟨-, hother⟩ <;> simp_all

end

/-- The names of the headers for caches. -/
def cacheNames : List String := ["Cache-Control", "ETag", "Last-Modified"]

theorem Sends.name_mem {policy : CachePolicy} {request : Request} {lastModified : Int}
    {headers : Fields String} (hsends : policy.Sends request lastModified headers) :
    ∀ entry ∈ headers.entries, entry.1 ∈ cacheNames := by
  cases hsends with
  | modified =>
      intro entry hentry
      change entry ∈ [_, _, _] at hentry
      simp only [List.mem_cons, List.not_mem_nil, or_false] at hentry
      rcases hentry with rfl | rfl | rfl <;> simp [cacheNames]
  | notForReading =>
      intro entry hentry
      change entry ∈ [_, _] at hentry
      simp only [List.mem_cons, List.not_mem_nil, or_false] at hentry
      rcases hentry with rfl | rfl <;> simp [cacheNames]

/-- No other header was written, in whatever case its name is looked up. -/
theorem Sends.header?_eq_none {policy : CachePolicy} {request : Request} {lastModified : Int}
    {headers : Fields String} (hsends : policy.Sends request lastModified headers) {name : String}
    (hname : ∀ other ∈ cacheNames, Text.lower other ≠ Text.lower name) {response : Response}
    (hheaders : response.headers = headers) : response.header? name = none := by
  rw [Response.header?, hheaders, Option.map_eq_none_iff, List.find?_eq_none]
  intro entry hentry
  rw [beq_iff_eq]
  exact hname _ (hsends.name_mem entry hentry)

theorem Sends.get?_eq_none {policy : CachePolicy} {request : Request} {lastModified : Int}
    {headers : Fields String} (hsends : policy.Sends request lastModified headers) {name : String}
    (hname : name ∉ cacheNames) : headers.get? name = none := by
  rw [Fields.get?, List.lookup_eq_none_iff]
  intro entry hentry
  rw [bne_iff_ne]
  rintro rfl
  exact hname (hsends.name_mem entry hentry)

theorem write_cacheHeaders (policy : CachePolicy) (lastModified : Int) (world : World)
    (next : Handling Unit) :
    (do
      write (Sink.setHeader "Cache-Control" policy.control)
      write (Sink.setHeader "ETag" (entityTag lastModified))
      next : Handling Unit) { world } =
      next { response := { headers := policy.cacheHeaders lastModified }, world } := by
  rw [bind_of_ok (write_of_ok (Sink.setHeader_of_open rfl _ _)),
    bind_of_ok (write_of_ok (Sink.setHeader_of_open rfl _ _))]
  rfl

theorem apply_of_sends {policy : CachePolicy} {request : Request} {lastModified : Int}
    {headers : Fields String} (hsends : policy.Sends request lastModified headers)
    (world : World) :
    policy.apply request lastModified { world } = (.ok (), { response := { headers }, world }) := by
  rw [apply, write_cacheHeaders]
  cases hsends with
  | modified hmodified hdate =>
      rw [hmodified, hdate]
      rfl
  | notForReading hmodified hmethod =>
      rw [hmodified, hmethod]
      rfl

theorem apply_of_spares (policy : CachePolicy) {request : Request} {lastModified : Int}
    (hspares : Spares request lastModified) (world : World) :
    ∃ journal, policy.apply request lastModified { world } =
      (.ok (),
        { response := { status := .notModified, headers := policy.cacheHeaders lastModified }
          world := { world with journal } }) := by
  obtain ⟨hmethod, hmodified⟩ := hspares
  rw [← isConditional_iff] at hmethod
  obtain ⟨journal, hnote⟩ := serve_note_eq Channel.cache Level.debug
    (freshText request (entityTag lastModified))
    { response := { headers := policy.cacheHeaders lastModified }, world }
  refine ⟨journal, ?_⟩
  rw [apply, write_cacheHeaders, hmodified, hmethod]
  change (serve (Serving.note _ _ _) >>= fun _ => write (Sink.setStatus .notModified)) _ = _
  rw [bind_of_ok hnote]
  rfl

theorem apply_of_failsWith (policy : CachePolicy) {request : Request} {lastModified : Int}
    {fault : Fault} (hfails : FailsWith request lastModified fault) (world : World) :
    policy.apply request lastModified { world } =
      (.error fault, { response := { headers := policy.cacheHeaders lastModified }, world }) := by
  rw [apply, write_cacheHeaders]
  rcases hfails with hmodified | ⟨hmodified, hdate⟩
  · rw [hmodified]
    rfl
  · rw [hmodified, hdate]
    rfl

/-- There is no fourth end. -/
theorem sends_or_spares_or_failsWith (policy : CachePolicy) (request : Request)
    (lastModified : Int) :
    (∃ headers, policy.Sends request lastModified headers) ∨ Spares request lastModified ∨
      ∃ fault, FailsWith request lastModified fault := by
  cases hmodified : isModified request (entityTag lastModified) lastModified with
  | error fault => exact .inr (.inr ⟨fault, .inl hmodified⟩)
  | ok modified =>
      cases modified with
      | true =>
          cases hdate : HttpDate.ofMillis lastModified with
          | error fault => exact .inr (.inr ⟨fault, .inr ⟨hmodified, hdate⟩⟩)
          | ok date => exact .inl ⟨_, .modified hmodified hdate⟩
      | false =>
          cases hmethod : request.isConditional with
          | true => exact .inr (.inl ⟨(isConditional_iff request).mp hmethod, hmodified⟩)
          | false => exact .inl ⟨_, .notForReading hmodified hmethod⟩

end VersionedAssets.CachePolicy
