import VersionedAssets.Proofs.Handler.Endings

/-! # URLs that handlers make

The URL of a resource leads back to it: the handler that made it takes off what it put on, asks its
store for the path that the URL was made for, and sends what the store names.
-/

namespace VersionedAssets.Handler

open Actions Handling ResourcePath VersionToken

theorem head?_inject {path : String} {lastModified : Int}
    (hhead : path.toList.head? ≠ some '/') :
    (inject path lastModified).toList.head? ≠ some '/' := by
  obtain ⟨before, after, hpath, hinject, -⟩ := inject_eq path lastModified
  rw [hinject]
  rw [hpath] at hhead
  cases before with
  | nil => simp [ofTime, marker]
  | cons c rest => simpa using hhead

theorem injectVersion_of_found {handler : Handler} {path : String} {world : World}
    {location : Location} {lastModified : Int}
    (hfound : (handler.store.lookup world.host path).outcome = .ok (some location))
    (hread : location.lastModified world.host.files = .ok lastModified) :
    ∃ journal, handler.injectVersion path world =
      (.ok (inject path lastModified),
        { world with journal, enquiries := world.enquiries ++ [⟨handler.store.name, path⟩] }) := by
  obtain ⟨journal, hask⟩ := Serving.ask_eq handler.store path world
  rw [hfound] at hask
  let asked : World :=
    { world with journal, enquiries := world.enquiries ++ [⟨handler.store.name, path⟩] }
  have hmodified : Serving.lastModified location asked = (.ok lastModified, asked) :=
    Serving.lastModified_of_read hread
  obtain ⟨journal', hnote⟩ := Serving.note_eq handler.channel Level.debug
    (injectText path (inject path lastModified)) asked
  refine ⟨journal', ?_⟩
  rw [injectVersion, bind_of_ok hask]
  exact (bind_of_ok hmodified).trans (bind_of_ok hnote)

theorem urlFor_of_found {handler : Handler} {path : String} {world : World} {location : Location}
    {lastModified : Int}
    (hfound : (handler.store.lookup world.host (Text.dropSlashes path)).outcome =
      .ok (some location))
    (hread : location.lastModified world.host.files = .ok lastModified) :
    (handler.urlFor path true world).1 =
      .ok (handler.urlPath ++ "/" ++ inject (Text.dropSlashes path) lastModified) := by
  obtain ⟨journal, hinject⟩ := injectVersion_of_found hfound hread
  simp only [urlFor, if_true]
  rw [bind_of_ok hinject]
  rfl

/-- A request for a URL that the handler made is a request for the path with its token. -/
theorem requests_url {handler : Handler} {request : Request} {path : String}
    (hhead : path.toList.head? ≠ some '/') (hpath : request.path = handler.urlPath ++ "/" ++ path)
    (hparam : request.params.get? pathParameter = none) : Requests handler request path := by
  have hbelow : Requests handler request (Text.dropSlashes ("/" ++ path)) := by
    refine .below hparam ?_ (.inr ?_)
    · rw [hpath, String.append_assoc]
    · simp [Text.startsWith]
  rwa [Text.dropSlashes_slash_append, Text.dropSlashes_of_head? hhead] at hbelow

/-- The client says nothing about what it has. -/
structure Unconditional (request : Request) : Prop where
  no_tags : request.header "if-none-match" "" = ""
  no_date : request.header "if-modified-since" "" = ""

theorem isModified_of_unconditional {request : Request} (hplain : Unconditional request)
    (tag : String) (lastModified : Int) :
    CachePolicy.isModified request tag lastModified = .ok true := by
  simp only [CachePolicy.isModified, hplain.no_tags, hplain.no_date]
  rfl

/-- The URL of a resource is answered with the resource: its path without the token is asked for,
once, and what the store names is opened and sent. The store may have changed meanwhile, as long as
it names the same location. -/
theorem handle_urlFor (handler : Handler) (path : String) {world later : World}
    {location : Location} {lastModified lastModified' : Int} {date : String} {stream : Stream}
    (hguarded : Guarded (Text.dropSlashes path))
    (honly : OnlyBeforeLastDot (Text.dropSlashes path).toList)
    (hfound : (handler.store.lookup world.host (Text.dropSlashes path)).outcome =
      .ok (some location))
    (hread : location.lastModified world.host.files = .ok lastModified)
    (hnonneg : 0 ≤ lastModified)
    (hlater : (handler.store.lookup later.host (Text.dropSlashes path)).outcome =
      .ok (some location))
    (hread' : location.lastModified later.host.files = .ok lastModified')
    (hdate : HttpDate.ofMillis lastModified' = .ok date)
    (hopen : location.open? later.host.files = .ok stream) :
    ∃ url, (handler.urlFor path true world).1 = .ok url ∧
      ∀ request : Request, request.path = url → request.params.get? pathParameter = none →
        Unconditional request →
        Guarded (handler.requestedPath request) ∧
          Commits (handler.handle request { world := later }) .ok ∧
          handler.Leaves later (handler.handle request { world := later }) (.ok ())
            (handler.sentResponse location
              ((handler.policy.cacheHeaders lastModified').put "Last-Modified" date)
              later.streams.length)
            [Text.dropSlashes path] [stream] := by
  refine ⟨_, urlFor_of_found hfound hread, ?_⟩
  intro request hpath hparam hplain
  have hrequests := requests_url (head?_inject (Text.head?_dropSlashes path)) hpath hparam
  have hversioned := guarded_inject hguarded hnonneg
  have hsends : handler.policy.Sends request lastModified'
      ((handler.policy.cacheHeaders lastModified').put "Last-Modified" date) :=
    .modified (isModified_of_unconditional hplain _ _) hdate
  -- what the store is asked for is what the token was put into
  rw [← remove_inject hnonneg honly] at hlater
  have hleaves := leaves_of_sends hrequests hversioned hlater hread' hsends hopen
  rw [remove_inject hnonneg honly] at hleaves
  refine ⟨?_, ?_, hleaves⟩
  · rwa [← requests_iff.mp hrequests]
  · rw [hleaves.commits_iff (sentResponse_committed _ _ _ _), sentResponse_status]

/-- The URL of a style sheet, made at the root and with a dot before the last one. -/
theorem handle_urlFor_style :
    let style : Location :=
      { uri := "memory:style", filename := "site.min.css", modified := fun _ => .ok (.whole 5)
        content := fun _ => .ok { rest := [120] } }
    let handler : Handler :=
      { urlPath := ""
        store :=
          { name := "store"
            lookup := fun _ path =>
              .silent (.ok (if path = "css/site.min.css" then some style else none)) } }
    let request : Request := { method := "HEAD", path := "/css/site.min-ver-5.css" }
    (handler.urlFor "//css/site.min.css" true {}).1 = .ok request.path ∧
      Commits (handler.handle request { world := {} }) .ok := by
  intro style handler request
  have hguarded : Guarded (Text.dropSlashes "//css/site.min.css") :=
    ⟨by decide +kernel, by decide +kernel, by decide +kernel⟩
  have honly : OnlyBeforeLastDot (Text.dropSlashes "//css/site.min.css").toList := by
    intro before token rest hoccurs
    obtain ⟨digits, _, _, rfl⟩ := hoccurs.isToken
    have hdash : '-' ∈ (Text.dropSlashes "//css/site.min.css").toList := by
      rw [hoccurs.path_eq]
      simp [marker]
    exact absurd hdash (by decide +kernel)
  have hfound : (handler.store.lookup ({} : World).host
      (Text.dropSlashes "//css/site.min.css")).outcome = .ok (some style) := rfl
  have hread : style.lastModified ({} : World).host.files = .ok 5 := rfl
  have hopen : style.open? ({} : World).host.files = .ok { rest := [120] } := rfl
  obtain ⟨url, hurl, hanswers⟩ := handle_urlFor handler "//css/site.min.css" hguarded honly
    hfound hread (by decide) hfound hread rfl hopen
  have hmade : (handler.urlFor "//css/site.min.css" true {}).1 = .ok request.path := by
    decide +kernel
  have hpath : request.path = url := Except.ok.inj (hmade.symm.trans hurl)
  exact ⟨hmade, (hanswers request hpath rfl ⟨rfl, rfl⟩).2.1⟩

end VersionedAssets.Handler
