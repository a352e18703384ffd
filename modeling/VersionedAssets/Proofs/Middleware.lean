import VersionedAssets.Middleware
import VersionedAssets.Proofs.World

/-! # Layers that are functions

A layer may make its answer of the request, of what it gets from within and of the streams that were
opened since it was entered, and of nothing else. Such layers keep what was before out of their
answers: when a request has one outcome within, it has one outside of them.
-/

namespace VersionedAssets

namespace Response

/-- The response with its stream counted after earlier ones. -/
def countedAfter (earlier : Nat) (response : Response) : Response :=
  { response with stream := response.stream.map (earlier + ·) }

/-- The response with its stream counted without earlier ones. -/
def countedFrom (earlier : Nat) (response : Response) : Response :=
  { response with stream := response.stream.map (· - earlier) }

theorem countedAfter_zero (response : Response) : response.countedAfter 0 = response := by
  simp [countedAfter]

theorem countedFrom_countedAfter (response : Response) (earlier own : Nat) :
    (response.countedAfter (earlier + own)).countedFrom earlier = response.countedAfter own := by
  simp only [countedAfter, countedFrom, Option.map_map]
  congr 2
  funext number
  simp only [Function.comp_apply]
  omega

end Response

/-- The request has the outcome and the streams are opened for it, whatever was opened before. The
stream that an answer owns is counted among them. -/
def ComesTo (inner : Responder) (request : Request) (host : Host)
    (outcome : Except Fault Response) (opened : List Stream) : Prop :=
  ∀ world : World, world.host = host →
    ∃ left, inner request world =
        (outcome.map (Response.countedAfter world.streams.length), left) ∧
      world.Extends left opened

/-- Each request has one outcome. -/
def IsUniform (inner : Responder) : Prop :=
  ∀ request host, ∃ outcome opened, ComesTo inner request host outcome opened

/-! ## Courses -/

/-- What a layer does about a request. It can ask the inner responder, about this request or another
one, and go on with what comes of it; it can do so again, or not at all. It can also look at the
streams that were opened since it was entered, and change them. -/
inductive Course where
  | answer (response : Response)
  | fail (fault : Fault)
  | ask (request : Request) (next : Except Fault Response → Course)
  | change (work : List Stream → List Stream) (next : List Stream → Course)

/-- Runs a course in a layer that was entered when so many streams were opened. -/
def Course.run (inner : Responder) (earlier : Nat) :
    Course → World → Except Fault Response × World
  | answer response, world => (.ok (response.countedAfter earlier), world)
  | fail fault, world => (.error fault, world)
  | ask request next, world =>
    let asked := inner request world
    (next (asked.1.map (Response.countedFrom earlier))).run inner earlier asked.2
  | change work next, world =>
    let own := world.streams.drop earlier
    (next own).run inner earlier
      { world with streams := world.streams.take earlier ++ work own }

/-- The layer that follows a course for each request. -/
def Middleware.ofCourse (name : String) (course : Request → Course) : Middleware where
  name
  around inner request world := (course request).run inner world.streams.length world

/-- The layer is a function of requests and of what it gets from within. -/
def Middleware.IsCourse (layer : Middleware) : Prop :=
  ∃ name course, layer = Middleware.ofCourse name course

/-- A course comes to the same, whatever was before its layer was entered. -/
theorem Course.exists_run {inner : Responder} (hinner : IsUniform inner) (course : Course)
    (host : Host) (own : List Stream) :
    ∃ (outcome : Except Fault Response) (opened : List Stream),
      ∀ before world : World, before.host = host → before.Extends world own →
        ∃ left, course.run inner before.streams.length world =
            (outcome.map (Response.countedAfter before.streams.length), left) ∧
          before.Extends left opened := by
  induction course generalizing own with
  | answer response => exact ⟨.ok response, own, fun before world _ hown => ⟨world, rfl, hown⟩⟩
  | fail fault => exact ⟨.error fault, own, fun before world _ hown => ⟨world, rfl, hown⟩⟩
  | ask request next ih =>
      obtain ⟨given, asked, hgiven⟩ := hinner request host
      obtain ⟨outcome, opened, hnext⟩ :=
        ih (given.map (Response.countedAfter own.length)) (own ++ asked)
      refine ⟨outcome, opened, fun before world hhost hown => ?_⟩
      obtain ⟨after, hrun, hasked⟩ := hgiven world (hown.host_eq.trans hhost)
      have hcounted : (given.map (Response.countedAfter world.streams.length)).map
          (Response.countedFrom before.streams.length) =
            given.map (Response.countedAfter own.length) := by
        rw [hown.streams_eq, List.length_append]
        cases given with
        | error fault => rfl
        | ok response => exact congrArg Except.ok (response.countedFrom_countedAfter _ _)
      rw [run, hrun]
      dsimp only
      rw [hcounted]
      exact hnext before after hhost (hown.trans hasked)
  | change work next ih =>
      obtain ⟨outcome, opened, hnext⟩ := ih own (work own)
      refine ⟨outcome, opened, fun before world hhost hown => ?_⟩
      have hdrop : world.streams.drop before.streams.length = own := by
        rw [hown.streams_eq, List.drop_left]
      have htake : world.streams.take before.streams.length = before.streams := by
        rw [hown.streams_eq, List.take_left]
      rw [run, hdrop, htake]
      exact hnext before _ hhost ⟨hown.host_eq, hown.now_eq, rfl⟩

namespace Middleware

/-- The first layer is the outermost, and the others are what it asks. -/
theorem wrap_cons (layer : Middleware) (rest : List Middleware) (inner : Responder) :
    wrap (layer :: rest) inner = layer.around (wrap rest inner) := rfl

theorem wrap_nil (inner : Responder) : wrap [] inner = inner := rfl

end Middleware

theorem isUniform_around {inner : Responder} (hinner : IsUniform inner) {layer : Middleware}
    (hlayer : layer.IsCourse) : IsUniform (layer.around inner) := by
  obtain ⟨name, course, rfl⟩ := hlayer
  intro request host
  obtain ⟨outcome, opened, hrun⟩ := (course request).exists_run hinner host []
  exact ⟨outcome, opened, fun world hhost => hrun world world hhost (.refl world)⟩

/-- Any number of such layers may stand around each other. -/
theorem isUniform_wrap {inner : Responder} (hinner : IsUniform inner) {layers : List Middleware}
    (hlayers : ∀ layer ∈ layers, layer.IsCourse) : IsUniform (Middleware.wrap layers inner) := by
  induction layers with
  | nil => exact hinner
  | cons layer rest ih =>
      rw [List.forall_mem_cons] at hlayers
      exact isUniform_around (ih hlayers.2) hlayers.1

end VersionedAssets
