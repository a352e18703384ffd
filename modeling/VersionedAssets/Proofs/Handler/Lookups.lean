import VersionedAssets.Handler
import VersionedAssets.Proofs.ResourcePath
import VersionedAssets.Proofs.World

/-! # What handlers ask their stores for

A request is for one path, and a handler asks its store at most once: for that path without its
first token, and only if the path was safe as it came. The path that is asked for is safe as well,
except when the token was all that kept its segment from being empty or two dots.
-/

namespace VersionedAssets.Handler

open Actions Handling ResourcePath VersionToken

/-- The path that a request asks a handler for: what the router passed, else what follows the URL
path of the handler when that ends where a segment of the requested path ends, else the requested
path. Slashes at the beginning do not count. -/
inductive Requests (handler : Handler) (request : Request) : String → Prop
  | passed {path : String} (hparam : request.params.get? pathParameter = some path) :
      Requests handler request (Text.dropSlashes path)
  | below {rest : String} (hparam : request.params.get? pathParameter = none)
      (hpath : request.path = handler.urlPath ++ rest)
      (hrest : rest = "" ∨ Text.startsWith rest "/" = true) :
      Requests handler request (Text.dropSlashes rest)
  | outside (hparam : request.params.get? pathParameter = none)
      (hpath : ∀ rest, request.path = handler.urlPath ++ rest →
        rest ≠ "" ∧ Text.startsWith rest "/" = false) :
      Requests handler request (Text.dropSlashes request.path)

theorem owns_iff (urlPath path : String) :
    owns urlPath path = true ↔
      ∃ rest, path = urlPath ++ rest ∧ (rest = "" ∨ Text.startsWith rest "/" = true) := by
  simp only [owns, Text.startsWith, Bool.or_eq_true, beq_iff_eq, List.isPrefixOf_iff_prefix,
    String.toList_append]
  constructor
  · rintro (rfl | ⟨tail, htail⟩)
    · exact ⟨"", by simp, .inl rfl⟩
    · refine ⟨String.ofList ("/".toList ++ tail), ?_, .inr ?_⟩
      · rw [← String.toList_inj, String.toList_append, String.toList_ofList, ← htail,
          List.append_assoc]
      · simp
  · rintro ⟨rest, rfl, rfl | hrest⟩
    · simp
    · right
      rw [String.toList_append]
      exact (List.prefix_append_right_inj _).mpr hrest

theorem dropFirst_append (front rest : String) :
    Text.dropFirst front.length (front ++ rest) = rest := by
  rw [Text.dropFirst, String.toList_append, ← String.length_toList, List.drop_left,
    String.ofList_toList]

/-- The relation and the function agree on what a request is for. -/
theorem requests_iff {handler : Handler} {request : Request} {path : String} :
    Requests handler request path ↔ path = handler.requestedPath request := by
  have howns := owns_iff handler.urlPath request.path
  unfold requestedPath
  constructor
  · rintro (hparam | ⟨hparam, hpath, hrest⟩ | ⟨hparam, hpath⟩)
    · rw [hparam]
    · rw [hparam]
      simp only [howns.mpr ⟨_, hpath, hrest⟩, if_true]
      rw [hpath, dropFirst_append]
    · rw [hparam]
      have hnot : owns handler.urlPath request.path = false := by
        rw [← Bool.not_eq_true, howns]
        rintro ⟨rest, heq, hrest⟩
        obtain ⟨hne, hslash⟩ := hpath rest heq
        rcases hrest with hempty | hstarts
        · exact hne hempty
        · rw [hslash] at hstarts
          cases hstarts
      simp only [hnot]
      rfl
  · rintro rfl
    cases hparam : request.params.get? pathParameter with
    | some path => exact .passed hparam
    | none =>
        by_cases hown : owns handler.urlPath request.path = true
        · obtain ⟨rest, hpath, hrest⟩ := howns.mp hown
          simp only [hown, if_true]
          rw [hpath, dropFirst_append]
          exact .below hparam hpath hrest
        · simp only [hown]
          refine .outside hparam ?_
          intro rest hpath
          constructor
          · rintro rfl
            exact hown (howns.mpr ⟨_, hpath, .inl rfl⟩)
          · rw [← Bool.not_eq_true]
            exact fun hstarts => hown (howns.mpr ⟨_, hpath, .inr hstarts⟩)

/-! ## Answers ask for nothing -/

theorem asksNothing_apply (policy : CachePolicy) (request : Request) (lastModified : Int) :
    AsksNothing (policy.apply request lastModified) := by
  unfold CachePolicy.apply
  refine (asksNothing_write _).bind fun _ => (asksNothing_write _).bind fun _ =>
    (asksNothing_ofExcept _).bind fun modified => ?_
  split
  · exact (asksNothing_ofExcept _).bind fun _ => asksNothing_write _
  · split
    · exact (asksNothing_note _ _ _).bind fun _ => asksNothing_write _
    · exact asksNothing_pure _

theorem asksNothing_answer (status : Status) : AsksNothing (answer status) :=
  (asksNothing_write _).bind fun _ => asksNothing_write _

theorem asksNothing_sendResource (handler : Handler) (location : Location) :
    AsksNothing (handler.sendResource location) := by
  unfold sendResource
  split
  · exact (asksNothing_note _ _ _).bind fun _ => (asksNothing_write _).bind fun _ =>
      (asksNothing_write _).bind fun _ => (asksNothing_openStream _).bind fun _ =>
        (asksNothing_write _).bind fun _ => asksNothing_write _
  · exact (asksNothing_note _ _ _).bind fun _ => (asksNothing_write _).bind fun _ =>
      (asksNothing_openStream _).bind fun _ => (asksNothing_write _).bind fun _ =>
        asksNothing_write _

theorem asksNothing_streamResource (handler : Handler) (request : Request) (location : Location) :
    AsksNothing (handler.streamResource request location) := by
  refine AsksNothing.tryCatch ?_ fun fault => asksNothing_throw _
  refine (asksNothing_lastModified _).bind fun _ => (asksNothing_apply _ _ _).bind fun _ =>
    asksNothing_response.bind fun response => ?_
  split
  · exact asksNothing_write _
  · exact asksNothing_sendResource handler location

/-! ## The one enquiry of a request -/

theorem handle_of_refused {handler : Handler} {request : Request}
    (hrefused : segments? (handler.requestedPath request) = none) (exchange : Exchange) :
    ∃ journal, handler.handle request exchange =
      answer .forbidden { exchange with world := { exchange.world with journal } } := by
  obtain ⟨journal, hnote⟩ := serve_note_eq handler.channel Level.warning
    s!"Path traversal attempt: {handler.requestedPath request}" exchange
  refine ⟨journal, ?_⟩
  simp only [handle, hrefused, Option.isNone_none, if_true]
  exact bind_of_ok hnote

theorem handle_of_directory {handler : Handler} {request : Request}
    (hsafe : segments? (handler.requestedPath request) ≠ none)
    (hdirectory : handler.requestedPath request = "" ∨
      Text.endsWith (handler.requestedPath request) "/" = true) (exchange : Exchange) :
    handler.handle request exchange = answer .notFound exchange := by
  have hsome : (segments? (handler.requestedPath request)).isNone = false := by
    simpa [Option.isSome_iff_ne_none] using hsafe
  have hcondition : ((handler.requestedPath request).isEmpty ||
      Text.endsWith (handler.requestedPath request) "/") = true := by
    rw [Bool.or_eq_true, String.isEmpty_iff]
    exact hdirectory
  simp only [handle, hsome, hcondition, if_true]
  rfl

/-- What a handler does with the answer of its store. -/
def answerTo (handler : Handler) (request : Request) : Option Location → Handling Unit
  | none => answer .notFound
  | some location => handler.streamResource request location

theorem handleResource_eq (handler : Handler) (request : Request) (path : String)
    (exchange : Exchange) :
    ∃ journal, handler.handleResource request path exchange =
      let asked := askedFor handler.store (remove path) journal exchange
      match (handler.store.lookup exchange.world.host (remove path)).outcome with
      | .error fault => (.error fault, asked)
      | .ok found => handler.answerTo request found asked := by
  have hask := serve_ask_bind_eq handler.store (remove path) (handler.answerTo request)
  by_cases hplain : remove path = path
  · obtain ⟨journal, hrun⟩ := hask exchange
    refine ⟨journal, Eq.trans ?_ hrun⟩
    simp only [handleResource, hplain, ne_eq, not_true_eq_false, if_false]
    rfl
  · obtain ⟨journal, hnote⟩ := serve_note_eq handler.channel Level.debug
      (removeText path (remove path)) exchange
    obtain ⟨journal', hrun⟩ :=
      hask { exchange with world := { exchange.world with journal } }
    refine ⟨journal', Eq.trans ?_ hrun⟩
    simp only [handleResource, ne_eq, hplain, not_false_eq_true, if_true]
    exact bind_of_ok hnote

/-- A safe path is asked for once, without its first token. -/
theorem handle_of_guarded {handler : Handler} {request : Request}
    (hguarded : Guarded (handler.requestedPath request)) (exchange : Exchange) :
    handler.handle request exchange =
      handler.handleResource request (handler.requestedPath request) exchange := by
  have hsome : (segments? (handler.requestedPath request)).isNone = false := by
    simpa [Option.isSome_iff_ne_none] using hguarded.safe
  have hcondition : ((handler.requestedPath request).isEmpty ||
      Text.endsWith (handler.requestedPath request) "/") = false := by
    rw [Bool.or_eq_false_iff, hguarded.not_directory]
    exact ⟨by simpa using hguarded.ne_empty, rfl⟩
  simp only [handle, hsome, hcondition]
  rfl

theorem asksNothing_answerTo (handler : Handler) (request : Request) (found : Option Location) :
    AsksNothing (handler.answerTo request found) := by
  cases found with
  | none => exact asksNothing_answer _
  | some location => exact asksNothing_streamResource handler request location

theorem enquiries_of_guarded {handler : Handler} {request : Request}
    (hguarded : Guarded (handler.requestedPath request)) (exchange : Exchange) :
    (handler.handle request exchange).2.world.enquiries =
      exchange.world.enquiries ++
        [⟨handler.store.name, remove (handler.requestedPath request)⟩] := by
  obtain ⟨journal, hrun⟩ :=
    handler.handleResource_eq request (handler.requestedPath request) exchange
  rw [handle_of_guarded hguarded, hrun]
  dsimp only
  split
  · rfl
  · exact asksNothing_answerTo handler request _ _

theorem enquiries_of_not_guarded {handler : Handler} {request : Request}
    (hnot : ¬ Guarded (handler.requestedPath request)) (exchange : Exchange) :
    (handler.handle request exchange).2.world.enquiries = exchange.world.enquiries := by
  by_cases hsafe : segments? (handler.requestedPath request) = none
  · obtain ⟨journal, hrun⟩ := handle_of_refused hsafe exchange
    rw [hrun]
    exact asksNothing_answer _ _
  · rw [handle_of_directory hsafe (directory_of_not_guarded hnot hsafe)]
    exact asksNothing_answer _ _

/-- The first token of the path is all that keeps its segment from being empty or two dots. -/
def CoversGap (path : String) : Prop :=
  ∃ before token after, First path.toList before token after ∧
    (remainder before after = [] ∨ remainder before after = ['.', '.'])

theorem guarded_remove_iff_not_coversGap {path : String} (hguarded : Guarded path) :
    Guarded (remove path) ↔ ¬ CoversGap path := by
  rcases exists_first_or_notOccurs path.toList with ⟨before, token, after, hfirst⟩ | hnone
  · rw [guarded_remove_iff hguarded hfirst, ← not_or, not_iff_not]
    constructor
    · exact fun hgap => ⟨before, token, after, hfirst, hgap⟩
    · rintro ⟨before', token', after', hfirst', hgap⟩
      have hlength := Nat.le_antisymm (hfirst.leftmost _ _ _ hfirst'.toOccurs)
        (hfirst'.leftmost _ _ _ hfirst.toOccurs)
      obtain ⟨rfl, rfl, rfl⟩ := hfirst.toOccurs.unique hfirst'.toOccurs hlength
      exact hgap
  · rw [remove_of_notOccurs hnone]
    refine iff_of_true hguarded ?_
    rintro ⟨before, token, after, hfirst, _⟩
    exact hnone before token after hfirst.toOccurs

/-- Whatever a handler asks its store for is safe to look up, except for the paths in which a token
covers a gap: those pass the guard as they come, and are asked for with the gap. Paths that the
guard refuses are not asked for at all. -/
theorem asks_guarded_iff (handler : Handler) (request : Request) (exchange : Exchange) :
    ∃ asked : List String,
      (handler.handle request exchange).2.world.enquiries =
        exchange.world.enquiries ++ asked.map (Enquiry.mk handler.store.name) ∧
      (Guarded (handler.requestedPath request) ∧
          asked = [remove (handler.requestedPath request)] ∨
        ¬ Guarded (handler.requestedPath request) ∧ asked = []) ∧
      ((∀ path ∈ asked, Guarded path) ↔
        ¬ (Guarded (handler.requestedPath request) ∧
          CoversGap (handler.requestedPath request))) := by
  by_cases hguarded : Guarded (handler.requestedPath request)
  · refine ⟨[remove (handler.requestedPath request)], enquiries_of_guarded hguarded exchange,
      .inl ⟨hguarded, rfl⟩, ?_⟩
    rw [List.forall_mem_singleton, guarded_remove_iff_not_coversGap hguarded]
    simp [hguarded]
  · refine ⟨[], ?_, .inr ⟨hguarded, rfl⟩, by simp [hguarded]⟩
    rw [enquiries_of_not_guarded hguarded exchange]
    simp

/-- Of the path of a token after two dots, the two dots are asked for. -/
theorem asks_for_parent :
    let handler : Handler :=
      { urlPath := "/public"
        store := { name := "store", lookup := fun _ _ => .silent (.ok none) } }
    let request : Request := { method := "GET", path := "/public/..-ver-1" }
    (handler.handle request { world := {} }).2.world.enquiries = [⟨"store", ".."⟩] ∧
      ¬ Guarded ".." := by
  refine ⟨by decide +kernel, fun hguarded => hguarded.safe (by decide +kernel)⟩

end VersionedAssets.Handler
