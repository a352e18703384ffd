import VersionedAssets.Proofs.Application.Mounts
import VersionedAssets.Proofs.Handler.Urls

/-! # URLs that applications make

The URL of a resource is made by the first handler whose store has it, and a request goes to the
handler with the longest URL path that leads to it. The two are the same handler unless the
directories of the resource spell the URL path of another one, which is longer then. Where they are
the same, the URL is answered with the resource that it was made for.
-/

namespace VersionedAssets

open Actions Handling ResourcePath VersionToken

/-! ## Paths without the slashes at their beginning -/

theorem exists_slashes_append (path : String) :
    ∃ slashes, (∀ c ∈ slashes, c = '/') ∧
      path.toList = slashes ++ (Text.dropSlashes path).toList := by
  refine ⟨path.toList.takeWhile (· = '/'), fun c hc => ?_, ?_⟩
  · simpa using List.mem_takeWhile_imp hc
  · rw [Text.dropSlashes, String.toList_ofList, List.takeWhile_append_dropWhile]

theorem mem_pieceLists_of_dropSlashes {path : String} {part : List Char}
    (hpart : part ∈ Text.pieceLists '/' (Text.dropSlashes path).toList) :
    part ∈ Text.pieceLists '/' path.toList := by
  obtain ⟨slashes, hslashes, hpath⟩ := exists_slashes_append path
  rw [hpath]
  clear hpath
  induction slashes with
  | nil => exact hpart
  | cons c rest ih =>
      obtain ⟨rfl, hrest⟩ := List.forall_mem_cons.mp hslashes
      rw [List.cons_append, Text.pieceLists, if_pos rfl]
      exact List.mem_cons_of_mem _ (ih hrest)

theorem guarded_dropSlashes {path : String} (hguarded : Guarded path) :
    Guarded (Text.dropSlashes path) := by
  obtain ⟨hsafe, hne, hlast⟩ := (guarded_iff path).mp hguarded
  obtain ⟨slashes, hslashes, hpath⟩ := exists_slashes_append path
  have hrest : (Text.dropSlashes path).toList ≠ [] := by
    intro hnil
    rw [hpath, hnil, List.append_nil] at hne hlast
    rw [List.getLast?_eq_some_getLast hne] at hlast
    exact hlast (congrArg some (hslashes _ (List.getLast_mem hne)))
  refine (guarded_iff _).mpr ⟨fun part hpart => hsafe part (mem_pieceLists_of_dropSlashes hpart),
    hrest, ?_⟩
  rwa [hpath, List.getLast?_append_of_ne_nil _ hrest] at hlast

/-- A path without a token has none after its first slashes. -/
theorem notOccurs_dropSlashes {path : String}
    (hplain : ∀ before token after, ¬ Occurs path.toList before token after)
    (before token after : List Char) :
    ¬ Occurs (Text.dropSlashes path).toList before token after := by
  obtain ⟨slashes, -, hpath⟩ := exists_slashes_append path
  intro hoccurs
  refine hplain (slashes ++ before) token after ⟨?_, hoccurs.isToken, hoccurs.ends⟩
  rw [hpath, hoccurs.path_eq]
  simp

/-! ## What stands in a URL -/

namespace Handler

/-- What is shown of a resource path in a URL: the path itself, or the path with the token of the
location that it names. -/
inductive Shows (location : Location) (files : FileTree) (path : String) : Bool → String → Prop
  | plain : Shows location files path false path
  | versioned {lastModified : Int} (hread : location.lastModified files = .ok lastModified) :
      Shows location files path true (inject path lastModified)

section Shows

variable {location : Location} {files : FileTree} {path shown : String} {versioned : Bool}

theorem Shows.head?_ne_slash (hshows : Shows location files path versioned shown)
    (hhead : path.toList.head? ≠ some '/') : shown.toList.head? ≠ some '/' := by
  cases hshows with
  | plain => exact hhead
  | versioned _ => exact head?_inject hhead

theorem Shows.guarded (hshows : Shows location files path versioned shown)
    (hguarded : Guarded path)
    (hnonneg : ∀ lastModified, location.lastModified files = .ok lastModified →
      0 ≤ lastModified) : Guarded shown := by
  cases hshows with
  | plain => exact hguarded
  | versioned hread => exact guarded_inject hguarded (hnonneg _ hread)

/-- Taking the token off what is shown gives the path back. -/
theorem Shows.remove_eq (hshows : Shows location files path versioned shown)
    (hplain : ∀ before token after, ¬ Occurs path.toList before token after)
    (hnonneg : ∀ lastModified, location.lastModified files = .ok lastModified →
      0 ≤ lastModified) : remove shown = path := by
  cases hshows with
  | plain => exact remove_of_notOccurs hplain
  | versioned hread =>
      exact remove_inject (hnonneg _ hread) fun _ _ _ hoccurs => absurd hoccurs (hplain _ _ _)

end Shows

theorem exists_shows_of_urlFor {handler : Handler} {path url : String} {versioned : Bool}
    {world after : World} {location : Location}
    (hurl : handler.urlFor path versioned world = (.ok url, after))
    (hfound : (handler.store.lookup world.host (Text.dropSlashes path)).outcome =
      .ok (some location)) :
    ∃ shown, Shows location world.host.files (Text.dropSlashes path) versioned shown ∧
      url = handler.urlPath ++ "/" ++ shown := by
  cases versioned with
  | false => exact ⟨_, .plain, (Except.ok.inj (congrArg Prod.fst hurl)).symm⟩
  | true =>
      cases hread : location.lastModified world.host.files with
      | ok lastModified =>
          have hmade := urlFor_of_found hfound hread
          rw [hurl] at hmade
          exact ⟨_, .versioned hread, Except.ok.inj hmade⟩
      | error fault =>
          -- without a last-modified time there is no URL
          obtain ⟨journal, hask⟩ := Serving.ask_eq handler.store (Text.dropSlashes path) world
          rw [hfound] at hask
          have hinject : (handler.injectVersion (Text.dropSlashes path) world).1 =
              .error fault := by
            rw [injectVersion, bind_of_ok hask]
            dsimp only
            rw [bind_of_error (by rw [Serving.lastModified, hread])]
          rcases hrun : handler.injectVersion (Text.dropSlashes path) world with ⟨outcome, left⟩
          rw [hrun] at hinject
          obtain rfl : outcome = .error fault := hinject
          simp only [urlFor, if_true] at hurl
          rw [bind_of_error hrun] at hurl
          cases congrArg Prod.fst hurl

end Handler

/-! ## The handler that makes a URL -/

namespace Application

/-- The handler is the first of the list whose store has the path, under which it names the
location. The stores of those before it answer that they do not have it. -/
inductive Resolves (host : Host) (path : String) : List Handler → Handler → Location → Prop
  | here {handler : Handler} {rest : List Handler} {location : Location}
      (hfound : (handler.store.lookup host path).outcome = .ok (some location)) :
      Resolves host path (handler :: rest) handler location
  | later {first handler : Handler} {rest : List Handler} {location : Location}
      (hnone : (first.store.lookup host path).outcome = .ok none)
      (hrest : Resolves host path rest handler location) :
      Resolves host path (first :: rest) handler location

section Resolves

variable {host : Host} {path : String} {handlers : List Handler} {handler : Handler}
  {location : Location}

theorem Resolves.mem (hresolves : Resolves host path handlers handler location) :
    handler ∈ handlers := by
  induction hresolves with
  | here _ => exact List.mem_cons_self
  | later _ _ ih => exact List.mem_cons_of_mem _ ih

theorem Resolves.found (hresolves : Resolves host path handlers handler location) :
    (handler.store.lookup host path).outcome = .ok (some location) := by
  induction hresolves with
  | here hfound => exact hfound
  | later _ _ ih => exact ih

end Resolves

/-- A URL is made by the first handler that has the resource. -/
theorem exists_resolves_of_urlBy {handlers : List Handler} {path url : String} {versioned : Bool}
    {world after : World} (hurl : urlBy path versioned handlers world = (.ok url, after)) :
    ∃ handler location shown,
      Resolves world.host (Text.dropSlashes path) handlers handler location ∧
      Handler.Shows location world.host.files (Text.dropSlashes path) versioned shown ∧
      url = handler.urlPath ++ "/" ++ shown := by
  induction handlers generalizing world with
  | nil => cases congrArg Prod.fst hurl
  | cons first rest ih =>
      obtain ⟨journal, hask⟩ := Serving.ask_eq first.store (Text.dropSlashes path) world
      rw [urlBy] at hurl
      cases hfound : (first.store.lookup world.host (Text.dropSlashes path)).outcome with
      | error fault =>
          rw [hfound] at hask
          rw [bind_of_error hask] at hurl
          cases congrArg Prod.fst hurl
      | ok answer =>
          rw [hfound] at hask
          rw [bind_of_ok hask] at hurl
          -- asking leaves the host as it was
          cases answer with
          | some location =>
              obtain ⟨shown, hshows, hmade⟩ := Handler.exists_shows_of_urlFor hurl hfound
              exact ⟨first, location, shown, .here hfound, hshows, hmade⟩
          | none =>
              obtain ⟨handler, location, shown, hresolves, hmade⟩ := ih hurl
              exact ⟨handler, location, shown, .later hfound hresolves, hmade⟩

theorem mem_handlers_of_mem_candidates {app : Application} {restriction : Option String}
    {handler : Handler} (hmem : handler ∈ app.candidates restriction) :
    handler ∈ app.handlers := by
  cases restriction with
  | none => exact hmem
  | some spelling => exact (List.mem_filter.mp hmem).1

/-! ## Requests for a URL -/

theorem isFor_url (handler : Handler) (shown : String) :
    handler.IsFor (handler.urlPath ++ "/" ++ shown) := by
  refine .inr ((Handler.owns_iff _ _).mpr ⟨"/" ++ shown, ?_, .inr ?_⟩)
  · rw [String.append_assoc]
  · simp [Text.startsWith]

/-- A request for the URL is answered by the handler with the location: its store is asked once, for
the path. -/
structure Serves (app : Application) (handler : Handler) (path url : String)
    (location : Location) (world : World) (request : Request) : Prop where
  dispatched : app.dispatch request world = serveBy handler request world
  answered : ∃ journal, handler.handle request { world } =
    handler.streamResource request location (askedFor handler.store path journal { world })

/-- The URL of a resource comes from the first handler that has it. A request for the URL goes to
this handler if and only if no mounted handler with a longer URL path leads to the URL, and then it
is answered with the resource. Otherwise it goes to one with a longer URL path. -/
theorem findHandler?_urlFor {app : Application} (hsetup : app.IsSetUp) {path url : String}
    {restriction : Option String} {versioned : Bool} {world after : World}
    (hguarded : Guarded path)
    (hplain : ∀ before token rest, ¬ Occurs path.toList before token rest)
    (hnonneg : ∀ handler ∈ app.handlers, ∀ location lastModified,
      (handler.store.lookup world.host (Text.dropSlashes path)).outcome = .ok (some location) →
      location.lastModified world.host.files = .ok lastModified → 0 ≤ lastModified)
    (hurl : app.urlFor path restriction versioned world = (.ok url, after)) :
    ∃ handler location,
      Resolves world.host (Text.dropSlashes path) (app.candidates restriction) handler location ∧
      (app.findHandler? url = some handler ↔
        ∀ other ∈ app.handlers, other.IsFor url →
          other.urlPath.length ≤ handler.urlPath.length) ∧
      (∃ found, app.findHandler? url = some found ∧
        (found = handler ∨ handler.urlPath.length < found.urlPath.length)) ∧
      (app.findHandler? url = some handler →
        ∀ (now : World) (request : Request), now.host = world.host → request.path = url →
          request.params.get? Handler.pathParameter = none → request.method ∈ methods →
          app.Serves handler (Text.dropSlashes path) url location now request) := by
  obtain ⟨handler, location, shown, hresolves, hshows, rfl⟩ := exists_resolves_of_urlBy hurl
  have hmem := mem_handlers_of_mem_candidates hresolves.mem
  have hnonneg' := fun lastModified =>
    hnonneg handler hmem location lastModified hresolves.found
  refine ⟨handler, location, hresolves, ?_,
    exists_findHandler?_eq hsetup hmem (isFor_url handler shown), ?_⟩
  · rw [findHandler?_eq_some_iff hsetup]
    simp [hmem, isFor_url]
  · intro hfind now request hhost hpath hparam hmethod
    have hrequests := Handler.requests_url
      (hshows.head?_ne_slash (Text.head?_dropSlashes path)) hpath hparam
    have hremove := hshows.remove_eq (notOccurs_dropSlashes hplain) hnonneg'
    refine ⟨?_, ?_⟩
    · rw [← hpath] at hfind
      simp [dispatch, hfind, hmethod]
    · have hfound : handler.found now shown = .ok (some location) := by
        rw [Handler.found, hremove, hhost]
        exact hresolves.found
      have hanswer := Handler.handle_of_found hrequests
        (hshows.guarded (guarded_dropSlashes hguarded) hnonneg') hfound
      rwa [hremove] at hanswer

/-! ## Two mounts -/

section TwoMounts

/-- A script that was last modified five milliseconds after the beginning of 1970. -/
def script : Location where
  uri := "memory:x.js"
  filename := "x.js"
  modified _ := .ok (.whole 5)
  content _ := .ok { rest := [120] }

/-- A store that has the script under the given paths. -/
def scriptStore (name : String) (paths : List String) : Store where
  name
  lookup _ path := .silent (.ok (if path ∈ paths then some script else none))

/-- An application with handlers at the root and at `/a`, which have the script under the given
paths. -/
def twoMounts (atRoot below : List String) : Application :=
  { handlers :=
      [.ofStore "/a" (scriptStore "below" below), .ofStore "" (scriptStore "root" atRoot)] }

variable {atRoot below : List String}

theorem isSetUp_twoMounts : (twoMounts atRoot below).IsSetUp := by
  refine isSetUp_of_inOrder _ ⟨?_, ?_⟩
  · have hlonger : (Handler.normalizeUrl "").length ≤ (Handler.normalizeUrl "/a").length := by
      decide +kernel
    simpa [twoMounts, Handler.ofStore] using hlonger
  · have hdistinct : Handler.normalizeUrl "/a" ≠ Handler.normalizeUrl "" := by decide +kernel
    simpa [twoMounts, Handler.ofStore] using hdistinct

theorem found_scriptStore {name path : String} {paths : List String} {host : Host}
    {location : Location}
    (hfound : ((scriptStore name paths).lookup host path).outcome = .ok (some location)) :
    path ∈ paths ∧ location = script := by
  have hif : (if path ∈ paths then some script else none) = some location :=
    Except.ok.inj hfound
  by_cases hmem : path ∈ paths
  · rw [if_pos hmem] at hif
    exact ⟨hmem, (Option.some.inj hif).symm⟩
  · rw [if_neg hmem] at hif
    cases hif

theorem location_of_twoMounts {path : String} {handler : Handler} {location : Location}
    {host : Host} (hmem : handler ∈ (twoMounts atRoot below).handlers)
    (hfound : (handler.store.lookup host path).outcome = .ok (some location)) :
    location = script := by
  simp only [twoMounts, List.mem_cons, List.not_mem_nil, or_false] at hmem
  rcases hmem with rfl | rfl
  · exact (found_scriptStore hfound).2
  · exact (found_scriptStore hfound).2

theorem urlPath_of_resolves {path : String} {handler : Handler} {location : Location} {host : Host}
    (hresolves : Resolves host path (twoMounts atRoot below).handlers handler location) :
    handler.urlPath = if path ∈ below then "/a" else "" := by
  cases hresolves with
  | here hfound =>
      rw [if_pos (found_scriptStore hfound).1]
      exact (by decide +kernel : Handler.normalizeUrl "/a" = "/a")
  | later hnone hrest =>
      have hnot : path ∉ below := by
        intro hmem
        have hsome : (if path ∈ below then some script else none) = none := Except.ok.inj hnone
        rw [if_pos hmem] at hsome
        cases hsome
      rw [if_neg hnot]
      cases hrest with
      | here _ => exact (by decide +kernel : Handler.normalizeUrl "" = "")
      | later _ hrest => cases hrest

/-- A script below `/a` is answered by the handler that its URL is made by. -/
theorem findHandler?_urlFor_below :
    let app := twoMounts ["b/x.js"] ["x.js"]
    (app.urlFor "x.js" none true {}).1 = .ok "/a/x-ver-5.js" ∧
      ∃ handler, handler.urlPath = "/a" ∧
        app.Serves handler "x.js" "/a/x-ver-5.js" script {}
          { method := "GET", path := "/a/x-ver-5.js" } := by
  intro app
  have hguarded : Guarded "x.js" := ⟨by decide +kernel, by decide +kernel, by decide +kernel⟩
  have hplain : ∀ before token rest, ¬ Occurs "x.js".toList before token rest := by
    rintro before token rest ⟨hpath, ⟨digits, -, -, rfl⟩, -⟩
    have hdash : '-' ∈ "x.js".toList := by
      rw [hpath]
      simp [marker]
    exact absurd hdash (by decide)
  have hnonneg : ∀ handler ∈ app.handlers, ∀ location lastModified,
      (handler.store.lookup ({} : World).host (Text.dropSlashes "x.js")).outcome =
        .ok (some location) →
      location.lastModified ({} : World).host.files = .ok lastModified → 0 ≤ lastModified := by
    intro handler hmem location lastModified hfound hread
    obtain rfl := location_of_twoMounts hmem hfound
    obtain rfl := Except.ok.inj hread
    decide
  have hmade : (app.urlFor "x.js" none true {}).1 = .ok "/a/x-ver-5.js" := by decide +kernel
  have hurl : app.urlFor "x.js" none true {} =
      (.ok "/a/x-ver-5.js", (app.urlFor "x.js" none true {}).2) := Prod.ext hmade rfl
  obtain ⟨handler, location, hresolves, hfind, -, hserves⟩ :=
    findHandler?_urlFor isSetUp_twoMounts hguarded hplain hnonneg hurl
  have hrelative : Text.dropSlashes "x.js" = "x.js" := by decide +kernel
  rw [hrelative] at hresolves hserves
  have hplace : handler.urlPath = "/a" := urlPath_of_resolves hresolves
  obtain rfl := location_of_twoMounts hresolves.mem hresolves.found
  refine ⟨hmade, handler, hplace, hserves (hfind.mpr ?_) {} _ rfl rfl rfl (by decide)⟩
  rw [hplace]
  intro other hother _
  simp only [twoMounts, List.mem_cons, List.not_mem_nil, or_false] at hother
  rcases hother with rfl | rfl <;> decide +kernel

/-- The directory of a script at the root is the URL path of a handler that does not have it: the
URL of the script is made at the root and not found. -/
theorem findHandler?_urlFor_shadowed :
    let app := twoMounts ["a/x.js"] []
    app.IsSetUp ∧ Guarded "a/x.js" ∧
      (app.urlFor "a/x.js" none true {}).1 = .ok "/a/x-ver-5.js" ∧
      (∀ handler location, Resolves {} "a/x.js" app.handlers handler location →
        handler.urlPath = "") ∧
      (app.findHandler? "/a/x-ver-5.js").map (·.urlPath) = some "/a" ∧
      (app.dispatch { method := "GET", path := "/a/x-ver-5.js" } {}).1.map (·.status) =
        .ok .notFound := by
  intro app
  refine ⟨isSetUp_twoMounts, ⟨by decide +kernel, by decide +kernel, by decide +kernel⟩,
    by decide +kernel, fun handler location hresolves => ?_, by decide +kernel, by decide +kernel⟩
  exact urlPath_of_resolves hresolves

end TwoMounts

end Application

end VersionedAssets
