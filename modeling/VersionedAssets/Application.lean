import VersionedAssets.Config
import VersionedAssets.Handler
import VersionedAssets.Response.Reader

/-! # Applications

An application has handlers below different URL paths and layers of middleware around them. The
handler with the longest URL path that a request is for answers it. A fault of a resource is
answered with a 500 and recorded; every other fault goes to the server.
-/

namespace VersionedAssets

/-- Handlers behind layers of middleware. -/
structure Application where
  config : Config := {}
  policy : CachePolicy := {}
  mediaTypes : MediaTypes := MediaTypes.default
  /-- The mounted handlers, longer URL paths first. -/
  handlers : List Handler := []
  /-- The layers, the outermost first. -/
  layers : List Middleware := []
  /-- The layers that requests go through, once a request has come. Adding a layer forgets them. -/
  chain : Option (List Middleware) := none

namespace Application

/-- The application without handlers that the settings describe. -/
def ofConfig (config : Config) : Except Fault Application :=
  (CachePolicy.ofMaxAge config.cacheMaxAge config.production).map fun policy => { config, policy }

/-! ## Setup -/

/-- Is a handler mounted at the URL path? -/
def hasMount (app : Application) (urlPath : String) : Bool :=
  app.handlers.any fun handler => handler.urlPath == urlPath

/-- The application with one more handler. Handlers with URL paths of equal length stay in the
order of their mounting. -/
def addHandler (app : Application) (handler : Handler) : Except Fault Application :=
  if app.hasMount handler.urlPath then .error (.value (.mountTaken handler.urlPath))
  else .ok { app with
    handlers := (app.handlers ++ [handler]).mergeSort fun a b =>
      b.urlPath.length ≤ a.urlPath.length }

/-- Mounts a handler. -/
def mount (app : Application) (handler : Handler) : Serving Application := do
  match app.addHandler handler with
  | .error fault => throw fault
  | .ok mounted =>
    Serving.note Channel.application Level.info s!"Mounted {handler.name} at {handler.urlPattern}"
    return mounted

/-- The application with one more layer, inside of the others. -/
def addLayer (app : Application) (layer : Middleware) : Application :=
  { app with layers := app.layers ++ [layer], chain := none }

/-- Adds a layer. -/
def use (app : Application) (layer : Middleware) : Serving Application := do
  layer.noteAdded
  return app.addLayer layer

/-- The handler that a path is for. -/
def findHandler? (app : Application) (path : String) : Option Handler :=
  app.handlers.find? fun handler => handler.urlPath.isEmpty || Handler.owns handler.urlPath path

/-! ## URLs -/

/-- The handlers at a URL path, or all handlers. -/
def candidates (app : Application) (urlPath : Option String) : List Handler :=
  match urlPath with
  | none => app.handlers
  | some path => app.handlers.filter fun handler => handler.urlPath == Handler.normalizeUrl path

/-- The URL by the first of the handlers whose store has the path. -/
def urlBy (path : String) (versioned : Bool) : List Handler → Serving String
  | [] => throw (.resource { failure := .unmounted path })
  | handler :: rest => do
    match ← Serving.ask handler.store (Text.dropSlashes path) with
    | some _ => handler.urlFor path versioned
    | none => urlBy path versioned rest

/-- The URL of a resource. -/
def urlFor (app : Application) (path : String) (urlPath : Option String) (versioned : Bool) :
    Serving String := urlBy path versioned (app.candidates urlPath)

/-! ## Requests -/

/-- The methods that resources can be asked for with. -/
def methods : List String := ["GET", "HEAD"]

/-- The record about a resource that could not be served. -/
def failureRecord (request : Request) (fault : Fault) : Record :=
  { channel := Channel.application, level := Level.error
    text := "Failed to serve " ++ request.path ++ ": " ++ fault.message
    fault := some fault }

/-- The answer to a fault: the stream of the unfinished response is closed, and a fault of a
resource becomes a 500. -/
def recover (request : Request) (response : Response) : Fault → Serving Response
  | .resource fault => do
    let _ ← fun world =>
      let (outcome, _, after) := Serving.onResponse response Sink.release world
      (outcome, after)
    modify fun world => world.note (failureRecord request (.resource fault))
    return Response.internalError "Internal Server Error"
  | fault => throw fault

/-- The answer of a handler. -/
def serveBy (handler : Handler) (request : Request) : Serving Response := fun world =>
  match handler.handle request { world } with
  | (.ok _, exchange) => (.ok exchange.response, exchange.world)
  | (.error fault, exchange) => recover request exchange.response fault exchange.world

/-- The answer of the application without its layers. -/
def dispatch (app : Application) : Responder := fun request =>
  match app.findHandler? request.path with
  | none => return Response.notFound s!"No resource handler for {request.path}"
  | some handler =>
    if !methods.contains request.method then return Response.methodNotAllowed methods
    else serveBy handler request

/-- The application once a request has come. -/
def prepared (app : Application) : Application :=
  { app with chain := some (app.chain.getD app.layers) }

/-- The answer of the application with its layers. -/
def handleRequest (app : Application) : Responder :=
  Middleware.wrap (app.chain.getD app.layers) app.dispatch

/-! ## Serving -/

/-- What a server is given for a request: the status, the headers, and the response whose body it
may read, unless there is none to read. -/
structure Reply where
  status : String
  headers : List (String × String)
  body : Option Response
  deriving DecidableEq, Repr

/-- The name of the server in the headers of responses. -/
def serverName : String := "assetserver"

/-- Closes the body of a response. -/
def closeBody (response : Response) : Serving Unit := fun world =>
  let (outcome, _, after) := Serving.onResponse response Sink.release world
  (outcome, after)

/-- Answers the request that the variables of a server describe. Requests for the head and statuses
without a body have their body closed at once. -/
def reply (app : Application) (environ : Environ) : Serving Reply := do
  let request := Request.ofEnviron environ
  let response ← app.handleRequest request
  let headers ← fun world => (response.headerItems world.now serverName, world)
  if request.isHead || !response.status.allowsBody then
    closeBody response
    return { status := response.status.line, headers, body := none }
  else return { status := response.status.line, headers, body := some response }

/-- What a development server meets while it runs: lines of its own, and perhaps an interrupt. -/
structure ServerRun where
  lines : List String := []
  interrupted : Bool := false

/-- Runs a development server, at the given address or that of the settings, and gives the
address. -/
def run (app : Application) (host : Option String) (port : Option Int) (course : ServerRun) :
    Serving (String × Int) := do
  let host := (MediaTypes.nonEmpty? host).getD app.config.host
  let port := port.getD app.config.port
  Serving.note Channel.application Level.info s!"Serving resources on http://{host}:{port}"
  for handler in app.handlers do
    Serving.note Channel.application Level.info
      s!"  {handler.urlPattern} -> {handler.store.name}"
  for line in course.lines do
    Serving.note Channel.application Level.debug s!"wsgiref: {line}"
  if course.interrupted then
    Serving.note Channel.application Level.info "Received keyboard interrupt"
  Serving.note Channel.application Level.info "Server stopped"
  return (host, port)

/-! ## Building -/

/-- A setting that is there and not empty. -/
def source? (setting : Option String) : Option String := MediaTypes.nonEmpty? setting

/-- Mounts a handler with the policy and the media types of the application. -/
def mountShared (app : Application) (handler : Handler) : Serving Application :=
  app.mount { handler with policy := app.policy, mediaTypes := app.mediaTypes }

/-- Mounts the directory of the settings. -/
def mountDirectory (app : Application) : Serving Application := do
  match source? app.config.publicDirectory with
  | none => return app
  | some path =>
    match Handler.ofDirectory (← get).host.files path app.config.publicUrlPath with
    | .error fault => throw fault
    | .ok handler => app.mountShared handler

/-- Mounts the package of the settings. -/
def mountPackage (app : Application) : Serving Application :=
  match source? app.config.resourcePackage with
  | none => return app
  | some name => app.mountShared (Handler.ofPackage name app.config.resourceUrlPath)

/-- Mounts the web libraries of the settings. -/
def mountWebjars (app : Application) : Serving Application :=
  match source? app.config.webjarsPackage with
  | none => return app
  | some name => app.mountShared (Handler.ofWebjars name app.config.webjarsUrlPath)

/-- The layer of the settings that writes access records. -/
def accessLayer (config : Config) : Except Fault Middleware :=
  (({} : AccessLog).ofFormat config.logFormat).map AccessLog.toMiddleware

/-- Goes on with a value or fails. -/
def ofExcept {α : Type} (outcome : Except Fault α) : Serving α := fun world => (outcome, world)

/-- The application that the settings describe, with access records and every source mounted. -/
def create (config : Config) : Serving Application := do
  ofExcept (config.validate (← get).host.files)
  let app ← ofExcept (ofConfig config)
  let app ← app.use (← ofExcept (accessLayer config))
  let app ← app.mountDirectory
  let app ← app.mountPackage
  let app ← app.mountWebjars
  if app.handlers.isEmpty then
    Serving.note Channel.application Level.warning
      "No resource locations configured; every request will 404"
  return app

end Application

end VersionedAssets
