import VersionedAssets.Proofs.Application.Outcomes

/-! # Setting up an application in use

Handlers can be mounted and layers added while requests are answered. The layers that requests go
through are put together when the first one comes and kept until another layer is added, and still
every request is answered as if the application had just been set up. Nothing is left of earlier
requests, as long as the layers are functions.
-/

namespace VersionedAssets

namespace Application

/-! ## Calls -/

/-- What is done with an application. -/
inductive Call where
  | mount (handler : Handler)
  | use (layer : Middleware)
  | request (request : Request)

/-- The application and the world after a call. One that fails leaves the application as it was. -/
def perform (app : Application) (world : World) : Call → Application × World
  | .mount handler =>
    match app.mount handler world with
    | (.ok mounted, after) => (mounted, after)
    | (.error _, after) => (app, after)
  | .use layer =>
    match app.use layer world with
    | (.ok extended, after) => (extended, after)
    | (.error _, after) => (app, after)
  | .request request => (app.prepared, (app.handleRequest request world).2)

/-- The application and the world after calls, one after the other. -/
def performAll (app : Application) (world : World) : List Call → Application × World
  | [] => (app, world)
  | call :: rest =>
    let after := app.perform world call
    after.1.performAll after.2 rest

/-- The handlers that the calls are to mount, in order. -/
def handlersOf (calls : List Call) : List Handler :=
  calls.filterMap fun
    | .mount handler => some handler
    | _ => none

/-- The layers that the calls add, in order. -/
def layersOf (calls : List Call) : List Middleware :=
  calls.filterMap fun
    | .use layer => some layer
    | _ => none

/-- The calls that set the same application up without a request: all handlers are mounted, and then
all layers are added. -/
def setUp (calls : List Call) : List Call :=
  (handlersOf calls).map .mount ++ (layersOf calls).map .use

/-! ## What is kept of calls -/

/-- The handlers after one more was to be mounted. -/
def withHandler (handlers : List Handler) (handler : Handler) : List Handler :=
  match addHandler { handlers } handler with
  | .ok mounted => mounted.handlers
  | .error _ => handlers

/-- The layers that are kept are those that were added. -/
def IsCoherent (app : Application) : Prop := app.chain.getD app.layers = app.layers

section

variable {app : Application} {world : World}

/-- Mounting looks at the handlers only. -/
theorem addHandler_eq (app : Application) (handler : Handler) :
    app.addHandler handler = (addHandler { handlers := app.handlers } handler).map fun mounted =>
      { app with handlers := mounted.handlers } := by
  unfold addHandler hasMount
  dsimp only
  split <;> rfl

theorem perform_mount (app : Application) (world : World) (handler : Handler) :
    (app.perform world (.mount handler)).1 =
      { app with handlers := withHandler app.handlers handler } := by
  cases hadd : addHandler { handlers := app.handlers } handler with
  | error fault =>
      rw [perform, mount, addHandler_eq, withHandler, hadd]
      rfl
  | ok mounted =>
      rw [perform, mount, addHandler_eq, withHandler, hadd]
      rfl

/-- No call leaves layers that are out of date. -/
theorem IsCoherent.perform (hcoherent : app.IsCoherent) (world : World) (call : Call) :
    (app.perform world call).1.IsCoherent := by
  cases call with
  | mount handler =>
      rw [perform_mount]
      exact hcoherent
  | use layer => rfl
  | request request => exact hcoherent

theorem IsCoherent.performAll (hcoherent : app.IsCoherent) (world : World) (calls : List Call) :
    (app.performAll world calls).1.IsCoherent := by
  induction calls generalizing app world with
  | nil => exact hcoherent
  | cons call rest ih => exact ih (hcoherent.perform world call) _

theorem perform_handlers (app : Application) (world : World) (call : Call) :
    (app.perform world call).1.handlers = (handlersOf [call]).foldl withHandler app.handlers := by
  cases call with
  | mount handler =>
      rw [perform_mount]
      rfl
  | use layer => rfl
  | request request => rfl

theorem perform_layers (app : Application) (world : World) (call : Call) :
    (app.perform world call).1.layers = app.layers ++ layersOf [call] := by
  cases call with
  | mount handler =>
      rw [perform_mount]
      exact (List.append_nil _).symm
  | use layer => rfl
  | request request => exact (List.append_nil _).symm

theorem handlersOf_append (earlier later : List Call) :
    handlersOf (earlier ++ later) = handlersOf earlier ++ handlersOf later :=
  List.filterMap_append

theorem layersOf_append (earlier later : List Call) :
    layersOf (earlier ++ later) = layersOf earlier ++ layersOf later :=
  List.filterMap_append

theorem performAll_handlers (app : Application) (world : World) (calls : List Call) :
    (app.performAll world calls).1.handlers =
      (handlersOf calls).foldl withHandler app.handlers := by
  induction calls generalizing app world with
  | nil => rfl
  | cons call rest ih =>
      rw [performAll, ih, perform_handlers, ← List.foldl_append, ← handlersOf_append,
        List.singleton_append]

theorem performAll_layers (app : Application) (world : World) (calls : List Call) :
    (app.performAll world calls).1.layers = app.layers ++ layersOf calls := by
  induction calls generalizing app world with
  | nil => exact (List.append_nil _).symm
  | cons call rest ih =>
      rw [performAll, ih, perform_layers, List.append_assoc, ← layersOf_append,
        List.singleton_append]

theorem handlersOf_setUp (calls : List Call) : handlersOf (setUp calls) = handlersOf calls := by
  have hmounts (handlers : List Handler) : handlersOf (handlers.map .mount) = handlers := by
    simp [handlersOf, List.filterMap_map]
  have huses (layers : List Middleware) : handlersOf (layers.map .use) = [] := by
    simp [handlersOf]
  rw [setUp, handlersOf_append, hmounts, huses, List.append_nil]

theorem layersOf_setUp (calls : List Call) : layersOf (setUp calls) = layersOf calls := by
  have hmounts (handlers : List Handler) : layersOf (handlers.map .mount) = [] := by
    simp [layersOf]
  have huses (layers : List Middleware) : layersOf (layers.map .use) = layers := by
    simp [layersOf, List.filterMap_map]
  rw [setUp, layersOf_append, hmounts, huses, List.nil_append]

/-! ## Requests after calls -/

theorem dispatch_eq_of_handlers {other : Application} (hhandlers : app.handlers = other.handlers) :
    app.dispatch = other.dispatch := by
  funext request
  simp only [dispatch, findHandler?, hhandlers]

/-- Requests go through the layers in the order in which these were added. -/
theorem handleRequest_performAll (hcoherent : app.IsCoherent) (world : World)
    (calls : List Call) :
    (app.performAll world calls).1.handleRequest =
      Middleware.wrap (app.layers ++ layersOf calls) (app.performAll world calls).1.dispatch := by
  rw [handleRequest, hcoherent.performAll world calls, performAll_layers]

theorem isUniform_dispatch (app : Application) : IsUniform app.dispatch := by
  intro request host
  obtain ⟨outcome, opened, hgives⟩ := app.exists_gives request host
  refine ⟨outcome, opened, ?_⟩
  rintro world rfl
  exact dispatch_of_gives hgives

theorem isUniform_handleRequest (hcoherent : app.IsCoherent)
    (hlayers : ∀ layer ∈ app.layers, layer.IsCourse) : IsUniform app.handleRequest := by
  rw [handleRequest, hcoherent]
  exact isUniform_wrap app.isUniform_dispatch hlayers

/-! ## The world after calls -/

/-- What is not a request opens nothing. -/
theorem extends_perform (app : Application) (world : World) {call : Call}
    (hcall : ∀ request, call ≠ .request request) :
    world.Extends (app.perform world call).2 [] := by
  cases call with
  | mount handler =>
      cases hadd : app.addHandler handler with
      | error fault =>
          rw [perform, mount, hadd]
          exact .refl world
      | ok mounted =>
          rw [perform, mount, hadd]
          exact .note world _
  | use layer => exact .note world _
  | request request => exact absurd rfl (hcall request)

theorem extends_performAll (app : Application) (world : World) {calls : List Call}
    (hcalls : ∀ call ∈ calls, ∀ request, call ≠ .request request) :
    world.Extends (app.performAll world calls).2 [] := by
  induction calls generalizing app world with
  | nil => exact .refl world
  | cons call rest ih =>
      rw [List.forall_mem_cons] at hcalls
      exact (extends_perform app world hcalls.1).before (ih _ _ hcalls.2)

theorem ne_request_of_mem_setUp {calls : List Call} {call : Call} (hcall : call ∈ setUp calls)
    (request : Request) : call ≠ .request request := by
  rintro rfl
  simp [setUp] at hcall

theorem exists_extends_perform (hcoherent : app.IsCoherent)
    (hlayers : ∀ layer ∈ app.layers, layer.IsCourse) (world : World) (call : Call) :
    ∃ opened, world.Extends (app.perform world call).2 opened := by
  by_cases hcall : ∃ request, call = .request request
  · obtain ⟨request, rfl⟩ := hcall
    obtain ⟨outcome, opened, hcomes⟩ :=
      isUniform_handleRequest hcoherent hlayers request world.host
    obtain ⟨left, hrun, hleft⟩ := hcomes world rfl
    refine ⟨opened, ?_⟩
    rw [perform, hrun]
    exact hleft
  · exact ⟨[], extends_perform app world fun request heq => hcall ⟨request, heq⟩⟩

/-- Calls leave the host as it was. -/
theorem exists_extends_performAll (hcoherent : app.IsCoherent) (calls : List Call)
    (hlayers : ∀ layer ∈ app.layers ++ layersOf calls, layer.IsCourse) (world : World) :
    ∃ opened, world.Extends (app.performAll world calls).2 opened := by
  induction calls generalizing app world with
  | nil => exact ⟨[], .refl world⟩
  | cons call rest ih =>
      have hadded := (List.forall_mem_append.mp hlayers).1
      obtain ⟨opened, hcall⟩ := exists_extends_perform hcoherent hadded world call
      have hnext : (app.perform world call).1.layers ++ layersOf rest =
          app.layers ++ layersOf (call :: rest) := by
        rw [perform_layers, List.append_assoc, ← layersOf_append, List.singleton_append]
      obtain ⟨more, hrest⟩ := ih (hcoherent.perform world call) (by rwa [hnext]) _
      exact ⟨opened ++ more, hcall.trans hrest⟩

/-- A request that comes after the calls is answered as by an application that was just set up with
what they mounted and added. -/
structure AnswersAfresh (app : Application) (calls : List Call) : Prop where
  /-- Whatever layers do, they are the ones that were added, the first one outermost. -/
  wrapped : ∀ world, (app.performAll world calls).1.handleRequest =
    Middleware.wrap (app.layers ++ layersOf calls) (app.performAll world calls).1.dispatch
  /-- The outermost layer is asked first, and what it asks has the other layers around it. -/
  outermost : ∀ layer rest inner,
    Middleware.wrap (layer :: rest) inner = layer.around (Middleware.wrap rest inner)
  innermost : ∀ inner, Middleware.wrap [] inner = inner
  /-- In any one world, there is no difference at all. -/
  same : ∀ world other, (app.performAll world calls).1.handleRequest =
    (app.performAll other (setUp calls)).1.handleRequest
  /-- When layers are functions, the requests before make none either: the outcome is the one of a
  world without any, and the same streams are opened after the ones that were there. -/
  independent : (∀ layer ∈ app.layers ++ layersOf calls, layer.IsCourse) →
    ∀ (world : World) (request : Request),
      let used := app.performAll world calls
      let fresh := app.performAll { host := world.host } (setUp calls)
      (used.1.handleRequest request used.2).1 =
          (fresh.1.handleRequest request fresh.2).1.map
            (Response.countedAfter used.2.streams.length) ∧
        (used.1.handleRequest request used.2).2.streams =
          used.2.streams ++ (fresh.1.handleRequest request fresh.2).2.streams

/-- Whatever is called in between, the layers that are kept are never out of date. -/
theorem performAll_answersAfresh (hfresh : app.chain = none) (calls : List Call) :
    app.AnswersAfresh calls := by
  have hcoherent : app.IsCoherent := by
    rw [IsCoherent, hfresh]
    rfl
  have hsame (world other : World) : (app.performAll world calls).1.handleRequest =
      (app.performAll other (setUp calls)).1.handleRequest := by
    rw [handleRequest_performAll hcoherent, handleRequest_performAll hcoherent, layersOf_setUp]
    refine congrArg _ (dispatch_eq_of_handlers ?_)
    rw [performAll_handlers, performAll_handlers, handlersOf_setUp]
  refine ⟨fun world => handleRequest_performAll hcoherent world calls, Middleware.wrap_cons,
    Middleware.wrap_nil, hsame, ?_⟩
  intro hlayers world request used fresh
  have huniform : IsUniform used.1.handleRequest := by
    refine isUniform_handleRequest (hcoherent.performAll world calls) ?_
    rw [performAll_layers]
    exact hlayers
  obtain ⟨opened, hused⟩ := exists_extends_performAll hcoherent calls hlayers world
  have hsetUp : World.Extends { host := world.host } fresh.2 [] :=
    extends_performAll app _ fun _ hcall => ne_request_of_mem_setUp hcall
  -- one outcome is found for both worlds, as they have the same host
  obtain ⟨outcome, more, hcomes⟩ := huniform request world.host
  obtain ⟨left, hrun, hleft⟩ := hcomes used.2 hused.host_eq
  obtain ⟨left', hrun', hleft'⟩ := hcomes fresh.2 hsetUp.host_eq
  have hnone : fresh.2.streams = [] := hsetUp.streams_eq
  rw [show fresh.1.handleRequest = used.1.handleRequest from (hsame _ _).symm, hrun, hrun', hnone]
  constructor
  · cases outcome with
    | error fault => rfl
    | ok response => exact congrArg Except.ok (by rw [List.length_nil, response.countedAfter_zero])
  · rw [hleft.streams_eq, hleft'.streams_eq, hnone, List.nil_append]

end

/-- A layer that asks twice is added after a request, within the one that was there, and the next
request goes through both. -/
theorem performAll_answersAfresh_late :
    let script : Location :=
      { uri := "memory:x.js", filename := "x.js", modified := fun _ => .ok (.whole 5)
        content := fun _ => .ok { rest := [120] } }
    let handler : Handler :=
      .ofStore "" { name := "store", lookup := fun _ _ => .silent (.ok script) }
    let mark (name : String) : Except Fault Response → Course
      | .ok response =>
        .answer (response.assignHeader "X-Layers"
          ((response.header? "X-Layers").getD "app" ++ " < " ++ name))
      | .error fault => .fail fault
    let once : Middleware := .ofCourse "once" fun request => .ask request (mark "once")
    let twice : Middleware :=
      .ofCourse "twice" fun request => .ask request fun _ => .ask request (mark "twice")
    let request : Request := { method := "GET", path := "/x.js" }
    let calls : List Call :=
      [.mount handler, .use once, .request request, .mount handler, .use twice]
    let used := ({} : Application).performAll {} calls
    ({} : Application).AnswersAfresh calls ∧
      (∀ layer ∈ ([] : List Middleware) ++ layersOf calls, layer.IsCourse) ∧
      ((used.1.handleRequest request used.2).1.map fun response =>
          (response.header? "X-Layers", response.stream)) =
        .ok (some "app < twice < once", some 2) := by
  intro script handler mark once twice request calls used
  refine ⟨performAll_answersAfresh rfl calls, ?_, by decide +kernel⟩
  intro layer hlayer
  rcases List.mem_pair.mp hlayer with rfl | rfl
  · exact ⟨_, _, rfl⟩
  · exact ⟨_, _, rfl⟩

end Application

end VersionedAssets
