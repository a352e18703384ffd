import VersionedAssets.Proofs.Application.Alike
import VersionedAssets.Proofs.Application.Replies

/-! # What clients can make fail

As long as the stores of an application work, a request fails in two ways. A stream that has to be
closed unread may refuse to be closed; no client has a hand in that. But a date with a number that
is too large to be stored is a fault too, although every other date that cannot be read is treated
as absent.
-/

namespace VersionedAssets

open Handler

/-- The location can be described, with a date, and opened. -/
structure Location.IsHealthy (location : Location) (files : FileTree) : Prop where
  dated : ∃ lastModified, location.lastModified files = .ok lastModified ∧
    Moment.InYears 1 9999 lastModified
  opened : ∃ stream, location.open? files = .ok stream

/-- The store answers for every path, and what it finds is healthy. -/
structure Store.IsHealthy (store : Store) (host : Host) : Prop where
  answers : ∀ path fault, (store.lookup host path).outcome ≠ .error fault
  locations : ∀ path location, (store.lookup host path).outcome = .ok (some location) →
    location.IsHealthy host.files

/-- A store that always finds the same healthy location. -/
theorem Store.isHealthy_of_constant (host : Host) {location : Location}
    (hhealthy : location.IsHealthy host.files) (name : String) :
    ({ name, lookup := fun _ _ => .silent (.ok location) } : Store).IsHealthy host where
  answers _ _ hfailed := nomatch hfailed
  locations _ other hfound := by
    obtain rfl : location = other := Option.some.inj (Except.ok.inj hfound)
    exact hhealthy

namespace CachePolicy

variable {request : Request} {lastModified : Int} {fault : Fault}

/-- As the date of the resource can be written, validation fails only at the date of a request, and
only if the request names no tags. -/
theorem failsWith_iff (hyears : Moment.InYears 1 9999 lastModified) :
    FailsWith request lastModified fault ↔
      request.header "if-none-match" "" = "" ∧
        HttpDate.read (request.header "if-modified-since" "") = .error fault := by
  simp only [FailsWith, isModified, isNewByDate, HttpDate.ofMillis_of_inYears hyears,
    reduceCtorEq, and_false, or_false]
  by_cases htags : request.header "if-none-match" "" = ""
  · rw [htags]
    cases HttpDate.read (request.header "if-modified-since" "") <;> simp [Except.map]
  · simp [htags, String.isEmpty_iff]

end CachePolicy

namespace Application

variable {app : Application} {request : Request} {host : Host}

/-- The stores of all handlers are healthy. -/
def IsHealthy (app : Application) (host : Host) : Prop :=
  ∀ handler ∈ app.handlers, handler.store.IsHealthy host

/-- A resource is asked for with no tags, and with a date that fails to be read. -/
inductive Overflows (app : Application) (request : Request) (host : Host) (fault : Fault) : Prop
  | date {handler : Handler} {location : Location}
      (hreaches : app.Reaches request host handler location)
      (htags : request.header "if-none-match" "" = "")
      (hread : HttpDate.read (request.header "if-modified-since" "") = .error fault)

theorem breaks_iff {handler : Handler} {location : Location}
    (hhealthy : location.IsHealthy host.files) (fault : Fault) :
    handler.Breaks request location host.files fault ↔
      request.header "if-none-match" "" = "" ∧
        HttpDate.read (request.header "if-modified-since" "") = .error fault := by
  obtain ⟨⟨lastModified, hread, hyears⟩, stream, hopen⟩ := hhealthy
  rw [← CachePolicy.failsWith_iff hyears]
  constructor
  · intro hbreaks
    cases hbreaks with
    | metadata hunread => simp [hunread] at hread
    | validation hread' hfails =>
        obtain rfl := Except.ok.inj (hread.symm.trans hread')
        exact hfails
    | opening _ _ hunopened => simp [hunopened] at hopen
  · exact .validation hread

/-- With healthy stores, the faults that go to the server are those of dates. -/
theorem fails_iff_overflows (hhealthy : app.IsHealthy host) (fault : Fault) :
    app.Fails request host fault ↔ app.Overflows request host fault := by
  constructor
  · rintro ⟨hroutes, hfaults, -⟩
    have hstore := hhealthy _ hroutes.mem
    cases hfaults with
    | store _ hfound => exact absurd hfound (hstore.answers _ _)
    | location hguarded hfound hbreaks =>
        -- the name of streaming is for faults of input and output; an overflow keeps its own
        obtain ⟨htags, hread⟩ := (breaks_iff (hstore.locations _ _ hfound) _).mp hbreaks
        obtain ⟨cause, rfl⟩ := HttpDate.exists_overflow_of_read hread
        exact .date ⟨hroutes, hguarded, hfound⟩ htags hread
  · rintro @⟨handler, location, hreaches, htags, hread⟩
    have hstore := hhealthy _ hreaches.mem
    have hbreaks : handler.Breaks request location host.files fault :=
      (breaks_iff (hstore.locations _ _ hreaches.found) fault).mpr ⟨htags, hread⟩
    obtain ⟨cause, rfl⟩ := HttpDate.exists_overflow_of_read hread
    exact .raised hreaches.toRoutes (.location hreaches.guarded hreaches.found hbreaks)
      fun _ heq => nomatch heq

/-- Which dates fail to be read is told by the numbers in them. -/
theorem exists_overflows_iff (app : Application) (request : Request) (host : Host) :
    (∃ fault, app.Overflows request host fault) ↔
      (∃ handler location, app.Reaches request host handler location) ∧
        request.header "if-none-match" "" = "" ∧
        HttpDate.IsOversized (request.header "if-modified-since" "") := by
  rw [← HttpDate.exists_read_eq_error_iff]
  constructor
  · rintro ⟨fault, hreaches, htags, hread⟩
    exact ⟨⟨_, _, hreaches⟩, htags, fault, hread⟩
  · rintro ⟨⟨handler, location, hreaches⟩, htags, fault, hread⟩
    exact ⟨fault, hreaches, htags, hread⟩

/-- An application with healthy stores fails for dates with numbers that are too large, and for
streams that refuse to be closed. Any other date that cannot be read is as good as none. -/
theorem reply_of_isHealthy (hlogged : app.IsLogged) {world : World}
    (hdated : Moment.InYears 1 9999 world.now) (hhealthy : app.IsHealthy world.host)
    (environ : Environ) :
    (∀ fault, (app.reply environ world).1 = .error fault ↔
      app.Overflows (Request.ofEnviron environ) world.host fault ∨
        app.RefusesToClose (Request.ofEnviron environ) world.host fault) ∧
      ((∃ fault, app.Overflows (Request.ofEnviron environ) world.host fault) ↔
        (∃ handler location,
          app.Reaches (Request.ofEnviron environ) world.host handler location) ∧
          (Request.ofEnviron environ).header "if-none-match" "" = "" ∧
          HttpDate.IsOversized ((Request.ofEnviron environ).header "if-modified-since" "")) ∧
      (HttpDate.read ((Request.ofEnviron environ).header "if-modified-since" "") = .ok none →
        app.reply environ world =
          app.reply (environ.withoutHeader "if-modified-since") world) := by
  refine ⟨fun fault => ?_, exists_overflows_iff _ _ _, fun hundated => ?_⟩
  · rw [reply_eq_error_iff hlogged hdated, fails_iff_overflows hhealthy]
  · rw [reply_eq_of_alike hlogged (Environ.alike_withoutHeader hundated)]

/-- A word for a date is as good as none, and the script is sent. -/
theorem reply_of_isHealthy_yesterday :
    let script : Location :=
      { uri := "memory:x.js", filename := "x.js", modified := fun _ => .ok (.whole 5)
        content := fun _ => .ok { rest := [120] } }
    let app : Application :=
      { handlers := [.ofStore "" { name := "store", lookup := fun _ _ => .silent (.ok script) }]
        layers := [AccessLog.toMiddleware {}] }
    let environ : Environ :=
      ⟨[("PATH_INFO", "/x.js"), ("HTTP_IF_MODIFIED_SINCE", "yesterday")]⟩
    app.IsHealthy {} ∧ app.reply environ {} = app.reply ⟨[("PATH_INFO", "/x.js")]⟩ {} ∧
      ((app.reply environ {}).1.map Reply.status) = .ok "200 OK" := by
  intro script app environ
  have hscript : script.IsHealthy {} := ⟨⟨5, rfl, by decide +kernel⟩, _, rfl⟩
  have hhealthy : app.IsHealthy {} :=
    List.forall_mem_singleton.mpr (Store.isHealthy_of_constant {} hscript "store")
  have hdated : Moment.InYears 1 9999 ({} : World).now := by decide +kernel
  have hundated :
      HttpDate.read ((Request.ofEnviron environ).header "if-modified-since" "") = .ok none := by
    decide +kernel
  obtain ⟨-, -, habsent⟩ := reply_of_isHealthy ⟨[{}], rfl⟩ hdated hhealthy environ
  exact ⟨hhealthy, habsent hundated, by decide +kernel⟩

/-- A date in a year of eleven digits is a fault of the reply, although the store is healthy. -/
theorem reply_overflows_of_distant_year :
    let script : Location :=
      { uri := "memory:x.js", filename := "x.js", modified := fun _ => .ok (.whole 5)
        content := fun _ => .ok { rest := [120] } }
    let app : Application :=
      { handlers := [.ofStore "" { name := "store", lookup := fun _ _ => .silent (.ok script) }] }
    let environ : Environ :=
      ⟨[("PATH_INFO", "/x.js"),
        ("HTTP_IF_MODIFIED_SINCE", "Mon, 01 Jan 99999999999 00:00:00 GMT")]⟩
    app.IsHealthy {} ∧ (app.reply environ {}).1 = .error (.overflow .aboveMaximum) := by
  intro script app environ
  have hscript : script.IsHealthy {} := ⟨⟨5, rfl, by decide +kernel⟩, _, rfl⟩
  have hstore := Store.isHealthy_of_constant {} hscript "store"
  exact ⟨List.forall_mem_singleton.mpr hstore, by decide +kernel⟩

end Application

end VersionedAssets
