import VersionedAssets.Proofs.Application.Urls

/-! # The order of mounting

Handlers are mounted one after the other, and one whose URL path is taken is refused. However it
went, a path goes to the mounted handler with the longest URL path that covers it, and that handler
looks for the rest of the path. Handlers with different URL paths may be mounted in any order.
-/

namespace VersionedAssets

namespace Handler

/-- The URL path is that of the root, the path itself, or followed by a slash in the path. -/
def Covers (handler : Handler) (path : String) : Prop :=
  handler.urlPath = "" ∨ path = handler.urlPath ∨ ∃ rest, path = handler.urlPath ++ "/" ++ rest

theorem covers_iff {handler : Handler} {path : String} :
    handler.Covers path ↔ handler.IsFor path := by
  refine or_congr_right ?_
  rw [owns, Bool.or_eq_true, beq_iff_eq, Text.startsWith, List.isPrefixOf_iff_prefix]
  refine or_congr_right ⟨?_, ?_⟩
  · rintro ⟨rest, rfl⟩
    exact ⟨rest.toList, String.toList_append.symm⟩
  · rintro ⟨rest, hrest⟩
    refine ⟨String.ofList rest, ?_⟩
    rw [← String.toList_inj, String.toList_append, String.toList_ofList, hrest]

instance (handler : Handler) (path : String) : Decidable (handler.Covers path) :=
  have : Decidable (handler.IsFor path) := inferInstanceAs (Decidable (_ ∨ _))
  decidable_of_iff _ covers_iff.symm

/-- What covers a path begins it. -/
theorem Covers.exists_append {handler : Handler} {path : String} (hcovers : handler.Covers path) :
    ∃ rest, path = handler.urlPath ++ rest := by
  rcases hcovers with hroot | rfl | ⟨rest, rfl⟩
  · exact ⟨path, by rw [hroot, String.empty_append]⟩
  · exact ⟨"", by rw [String.append_empty]⟩
  · exact ⟨"/" ++ rest, by rw [String.append_assoc]⟩

/-- A handler that covers the path of a request looks for the rest of it, without the slashes that
it begins with. -/
theorem requestedPath_of_covers {handler : Handler} {request : Request} {rest : String}
    (hcovers : handler.Covers request.path) (hrest : request.path = handler.urlPath ++ rest)
    (hparam : request.params.get? pathParameter = none) :
    handler.requestedPath request = Text.dropSlashes rest := by
  have hdrop : Text.dropFirst handler.urlPath.length request.path = rest := by
    rw [hrest, dropFirst_append]
  rw [requestedPath, hparam]
  dsimp only
  split
  next => rw [hdrop]
  next howns =>
    -- only the root covers a path that is not below it, and there the rest is the whole path
    have hroot := (covers_iff.mp hcovers).resolve_right howns
    rw [hrest, hroot, String.empty_append]

end Handler

namespace Application

/-! ## Mounting one after the other -/

/-- The application and the world after the handlers were mounted one after the other. A handler
that cannot be mounted leaves the application as it was. -/
def mountAll (app : Application) : List Handler → World → Application × World
  | [], world => (app, world)
  | handler :: rest, world =>
    match app.mount handler world with
    | (.ok mounted, after) => mounted.mountAll rest after
    | (.error _, after) => app.mountAll rest after

section

variable {app : Application} {handler : Handler}

/-- A taken URL path is refused, and nothing happens. -/
theorem mount_of_taken (htaken : ∃ other ∈ app.handlers, other.urlPath = handler.urlPath)
    (world : World) :
    app.addHandler handler = .error (.value (.mountTaken handler.urlPath)) ∧
      app.mount handler world = (.error (.value (.mountTaken handler.urlPath)), world) := by
  have hmount : app.hasMount handler.urlPath = true := by simpa [hasMount] using htaken
  have hadd : app.addHandler handler = .error (.value (.mountTaken handler.urlPath)) := by
    rw [addHandler, if_pos hmount]
  refine ⟨hadd, ?_⟩
  rw [mount, hadd]
  rfl

/-- A handler with a free URL path joins the others. -/
theorem mount_of_free (hfree : ∀ other ∈ app.handlers, other.urlPath ≠ handler.urlPath)
    (world : World) :
    ∃ handlers after, handlers.Perm (handler :: app.handlers) ∧
      app.addHandler handler = .ok { app with handlers } ∧
      app.mount handler world = (.ok { app with handlers }, after) := by
  have hmount : app.hasMount handler.urlPath = false := by simpa [hasMount] using hfree
  have hadd : app.addHandler handler = .ok { app with
      handlers := (app.handlers ++ [handler]).mergeSort fun a b =>
        b.urlPath.length ≤ a.urlPath.length } := by
    rw [addHandler, if_neg (by rw [hmount]; exact Bool.false_ne_true)]
  obtain ⟨after, hrun⟩ : ∃ after, app.mount handler world = (.ok _, after) := by
    rw [mount, hadd]
    exact ⟨_, rfl⟩
  exact ⟨_, after, (List.mergeSort_perm _ _).trans List.perm_append_comm, hadd, hrun⟩

theorem isSetUp_mountAll (hsetup : app.IsSetUp) (calls : List Handler) (world : World) :
    (app.mountAll calls world).1.IsSetUp := by
  induction calls generalizing app world with
  | nil => exact hsetup
  | cons handler rest ih =>
      by_cases htaken : ∃ other ∈ app.handlers, other.urlPath = handler.urlPath
      · rw [mountAll, (mount_of_taken htaken world).2]
        exact ih hsetup world
      · have hfree : ∀ other ∈ app.handlers, other.urlPath ≠ handler.urlPath :=
          fun other hother hsame => htaken ⟨other, hother, hsame⟩
        obtain ⟨handlers, after, -, hadd, hmount⟩ := mount_of_free hfree world
        rw [mountAll, hmount]
        exact ih (.mounted hsetup hadd) after

/-- Handlers with different URL paths are all mounted. -/
theorem mountAll_perm {calls : List Handler}
    (hdistinct : (app.handlers ++ calls).Pairwise fun a b => a.urlPath ≠ b.urlPath)
    (world : World) : (app.mountAll calls world).1.handlers.Perm (app.handlers ++ calls) := by
  induction calls generalizing app world with
  | nil => simp [mountAll]
  | cons handler rest ih =>
      have hfree : ∀ other ∈ app.handlers, other.urlPath ≠ handler.urlPath := fun other hother =>
        (List.pairwise_append.mp hdistinct).2.2 other hother handler List.mem_cons_self
      obtain ⟨handlers, after, hperm, -, hmount⟩ := mount_of_free hfree world
      have hmiddle : (handlers ++ rest).Perm (app.handlers ++ handler :: rest) :=
        (hperm.append_right rest).trans List.perm_middle.symm
      have hrest : (handlers ++ rest).Pairwise fun a b => a.urlPath ≠ b.urlPath :=
        (hmiddle.pairwise_iff fun hne => hne.symm).mpr hdistinct
      rw [mountAll, hmount]
      exact (ih hrest after).trans hmiddle

end

/-! ## Finding -/

/-- What mounting and finding come to, whatever is mounted already. -/
structure RoutesByLongest (app : Application) : Prop where
  /-- A handler is refused if and only if its URL path is taken, and then nothing happens. -/
  refuses : ∀ handler world, (∃ other ∈ app.handlers, other.urlPath = handler.urlPath) →
    app.mount handler world = (.error (.value (.mountTaken handler.urlPath)), world)
  accepts : ∀ handler world, (∀ other ∈ app.handlers, other.urlPath ≠ handler.urlPath) →
    ∃ handlers after, handlers.Perm (handler :: app.handlers) ∧
      app.mount handler world = (.ok { app with handlers }, after)
  /-- The handler of a path is the one with the longest URL path that covers it. -/
  finds : ∀ path handler, app.findHandler? path = some handler ↔
    handler ∈ app.handlers ∧ handler.Covers path ∧
      ∀ other ∈ app.handlers, other.Covers path →
        other = handler ∨ other.urlPath.length < handler.urlPath.length
  misses : ∀ path, app.findHandler? path = none ↔
    ∀ handler ∈ app.handlers, ¬ handler.Covers path
  /-- It looks for what follows its URL path. -/
  looksFor : ∀ (request : Request) handler, app.findHandler? request.path = some handler →
    request.params.get? Handler.pathParameter = none →
      ∃ rest, request.path = handler.urlPath ++ rest ∧
        handler.requestedPath request = Text.dropSlashes rest

theorem routesByLongest_of_isSetUp {app : Application} (hsetup : app.IsSetUp) :
    app.RoutesByLongest := by
  constructor
  case refuses =>
    intro handler world htaken
    exact (mount_of_taken htaken world).2
  case accepts =>
    intro handler world hfree
    obtain ⟨handlers, after, hperm, -, hmount⟩ := mount_of_free hfree world
    exact ⟨handlers, after, hperm, hmount⟩
  case finds =>
    intro path handler
    simp only [Handler.covers_iff]
    constructor
    · intro hfind
      obtain ⟨hmem, hfor, -⟩ := (findHandler?_eq_some_iff hsetup).mp hfind
      refine ⟨hmem, hfor, fun other hother hfor' => ?_⟩
      obtain ⟨found, hfound, hlonger⟩ := exists_findHandler?_eq hsetup hother hfor'
      obtain rfl := Option.some.inj (hfind.symm.trans hfound)
      exact hlonger.imp_left Eq.symm
    · rintro ⟨hmem, hfor, hlongest⟩
      refine (findHandler?_eq_some_iff hsetup).mpr ⟨hmem, hfor, fun other hother hfor' => ?_⟩
      rcases hlongest other hother hfor' with rfl | hlt
      · exact Nat.le_refl _
      · exact Nat.le_of_lt hlt
  case misses =>
    intro path
    obtain ⟨p, hfind, hp⟩ := app.findHandler?_eq path
    simp only [hfind, List.find?_eq_none, hp, Handler.covers_iff]
  case looksFor =>
    intro request handler hfind hparam
    have hcovers : handler.Covers request.path :=
      Handler.covers_iff.mpr ((findHandler?_eq_some_iff hsetup).mp hfind).2.1
    obtain ⟨rest, hrest⟩ := hcovers.exists_append
    exact ⟨rest, hrest, Handler.requestedPath_of_covers hcovers hrest hparam⟩

/-- Applications with the same handlers find the same one for every path. -/
theorem findHandler?_eq_of_perm {app other : Application} (hsetup : app.IsSetUp)
    (hother : other.IsSetUp) (hperm : app.handlers.Perm other.handlers) (path : String) :
    app.findHandler? path = other.findHandler? path := by
  ext handler
  rw [findHandler?_eq_some_iff hsetup, findHandler?_eq_some_iff hother]
  simp only [hperm.mem_iff]

/-- However handlers were mounted in an application without any, paths go to the handler with the
longest URL path, and handlers with different URL paths might have been mounted in any other
order. -/
theorem mountAll_routesByLongest {app : Application} (hfresh : app.handlers = [])
    (calls : List Handler) (world : World) :
    (app.mountAll calls world).1.RoutesByLongest ∧
      ((calls.Pairwise fun a b => a.urlPath ≠ b.urlPath) →
        (app.mountAll calls world).1.handlers.Perm calls ∧
          ∀ order, calls.Perm order → ∀ now path,
            (app.mountAll order now).1.findHandler? path =
              (app.mountAll calls world).1.findHandler? path) := by
  have hsetup : app.IsSetUp := .fresh hfresh
  refine ⟨routesByLongest_of_isSetUp (isSetUp_mountAll hsetup calls world), fun hdistinct => ?_⟩
  have hall {calls : List Handler} (hdistinct : calls.Pairwise fun a b => a.urlPath ≠ b.urlPath)
      (world : World) : (app.mountAll calls world).1.handlers.Perm calls := by
    have hjoined : (app.handlers ++ calls).Pairwise fun a b => a.urlPath ≠ b.urlPath := by
      rwa [hfresh, List.nil_append]
    have hperm := mountAll_perm hjoined world
    rwa [hfresh, List.nil_append] at hperm
  refine ⟨hall hdistinct world, fun order hperm now path => ?_⟩
  have horder := (hperm.pairwise_iff fun hne => hne.symm).mp hdistinct
  refine findHandler?_eq_of_perm (isSetUp_mountAll hsetup order now)
    (isSetUp_mountAll hsetup calls world) ?_ path
  exact (hall horder now).trans (hperm.symm.trans (hall hdistinct world).symm)

/-- Handlers at `/a`, at the root and at `/a/b`, in the order of their mounting. -/
def nestedMounts : List Handler :=
  [.ofStore "a" (scriptStore "outer" []), .ofStore "" (scriptStore "root" []),
    .ofStore "/a/b/" (scriptStore "inner" [])]

/-- A path goes to the innermost of three handlers and not to one whose URL path ends within a name;
the URL path of the outer one is taken however it is spelled. -/
theorem mountAll_routesByLongest_nested :
    let app := (({} : Application).mountAll nestedMounts {}).1
    (app.findHandler? "/a/b/x.js").map (·.urlPath) = some "/a/b" ∧
      (app.findHandler? "/ab").map (·.urlPath) = some "" ∧
      (app.mount (.ofStore "//a/" (scriptStore "again" [])) {}).1 =
        .error (.value (.mountTaken "/a")) ∧
      ((({} : Application).mountAll nestedMounts.reverse {}).1.findHandler? "/ab").map
        (·.urlPath) = some "" := by
  intro app
  have hpaths : nestedMounts.map (·.urlPath) = ["/a", "", "/a/b"] := by decide +kernel
  have hdistinct : nestedMounts.Pairwise fun a b => a.urlPath ≠ b.urlPath := by
    rw [← List.pairwise_map, hpaths]
    decide
  obtain ⟨hroutes, hany⟩ := @mountAll_routesByLongest {} rfl nestedMounts {}
  obtain ⟨hperm, horder⟩ := hany hdistinct
  have hfind (path : String) (handler : Handler) (hmem : handler ∈ nestedMounts)
      (hcovers : handler.Covers path) (hlongest : ∀ other ∈ nestedMounts, other.Covers path →
        other = handler ∨ other.urlPath.length < handler.urlPath.length) :
      app.findHandler? path = some handler := by
    have hmem' : handler ∈ app.handlers := hperm.mem_iff.mpr hmem
    refine (hroutes.finds path handler).mpr ⟨hmem', hcovers, fun other hother => ?_⟩
    exact hlongest other (hperm.mem_iff.mp hother)
  have hinner : app.findHandler? "/a/b/x.js" =
      some (.ofStore "/a/b/" (scriptStore "inner" [])) := by
    refine hfind _ _ (by simp [nestedMounts]) (by decide +kernel) fun other hother _ => ?_
    simp only [nestedMounts, List.mem_cons, List.not_mem_nil, or_false] at hother
    rcases hother with rfl | rfl | rfl
    · exact .inr (by decide +kernel)
    · exact .inr (by decide +kernel)
    · exact .inl rfl
  have hroot : app.findHandler? "/ab" = some (.ofStore "" (scriptStore "root" [])) := by
    refine hfind _ _ (by simp [nestedMounts]) (by decide +kernel) fun other hother hcovers => ?_
    simp only [nestedMounts, List.mem_cons, List.not_mem_nil, or_false] at hother
    rcases hother with rfl | rfl | rfl
    · exact absurd hcovers (by decide +kernel)
    · exact .inl rfl
    · exact absurd hcovers (by decide +kernel)
  have hagain : (Handler.ofStore "//a/" (scriptStore "again" [])).urlPath = "/a" := by
    decide +kernel
  refine ⟨?_, ?_, ?_, ?_⟩
  · rw [hinner]
    exact congrArg some (by decide +kernel)
  · rw [hroot]
    exact congrArg some (by decide +kernel)
  · rw [hroutes.refuses, hagain]
    refine ⟨.ofStore "a" (scriptStore "outer" []), hperm.mem_iff.mpr (by simp [nestedMounts]), ?_⟩
    decide +kernel
  · rw [horder _ nestedMounts.reverse_perm.symm {} "/ab"]
    change (app.findHandler? "/ab").map _ = _
    rw [hroot]
    exact congrArg some (by decide +kernel)

end Application

end VersionedAssets
