import VersionedAssets.CachePolicy
import VersionedAssets.Store.Directory
import VersionedAssets.Store.Webjar
import VersionedAssets.VersionToken

/-! # Handlers

A handler serves the resources of one store below one URL path. It takes the version token off a
requested path, asks the store, and answers with the resource, with "not modified", with "not
found", or, for a path that tries to leave the store, with "forbidden". It also makes the URLs that
it will answer.
-/

namespace VersionedAssets

/-- A store below a URL path. -/
structure Handler where
  /-- Empty, or a slash and a path without slashes at its ends. -/
  urlPath : String
  store : Store
  policy : CachePolicy := {}
  mediaTypes : MediaTypes := MediaTypes.default
  /-- The channel of the records about this handler. -/
  channel : String := Channel.resource

namespace Handler

/-- A URL path as handlers keep it: empty for the root, else with one slash before it. -/
def normalizeUrl (urlPath : String) : String :=
  let trimmed := Text.trimSlashes urlPath
  if trimmed.isEmpty then "" else "/" ++ trimmed

/-- The handler of a store below a URL path in any spelling. -/
def ofStore (urlPath : String) (store : Store) : Handler :=
  { urlPath := normalizeUrl urlPath, store }

/-- The handler of a directory. -/
def ofDirectory (files : FileTree) (directory : String) (urlPath : String := "/files") :
    Except Fault Handler :=
  (DirectoryStore.ofPath files directory).map fun store => ofStore urlPath store.toStore

/-- The handler of a directory of a package. -/
def ofPackage (package : String) (urlPath : String := "/public") (base : String := "public") :
    Handler := ofStore urlPath (PackageStore.ofPackage package base).toStore

/-- The handler of the web libraries of a package. -/
def ofWebjars (package : String) (urlPath : String := "/webjars") (base : String := "webjars") :
    Handler := ofStore urlPath (WebjarStore.ofPackage package base).toStore

/-- The parameter under which a router passes the path of the resource. -/
def pathParameter : String := "resource_path"

/-- The pattern of the URLs that the handler answers. -/
def urlPattern (handler : Handler) : String := handler.urlPath ++ "/*" ++ pathParameter

/-- How messages name the handler. -/
def name (handler : Handler) : String :=
  "ResourceHandler(" ++ Text.quoted handler.urlPath ++ ", " ++ handler.store.name ++ ")"

/-- Is the path the URL path itself or below it? -/
def owns (urlPath path : String) : Bool := path == urlPath || Text.startsWith path (urlPath ++ "/")

/-- The path of the requested resource: what a router passed, or what follows the URL path. -/
def requestedPath (handler : Handler) (request : Request) : String :=
  match request.params.get? pathParameter with
  | some path => Text.dropSlashes path
  | none =>
    if owns handler.urlPath request.path then
      Text.dropSlashes (Text.dropFirst handler.urlPath.length request.path)
    else Text.dropSlashes request.path

/-- Writes a record about this handler. -/
def note (handler : Handler) (level : Level) (text : String) : Serving Unit :=
  Serving.note handler.channel level text

/-! ## Versions -/

/-- The text of the record about a path that a token was put into. -/
def injectText (path result : String) : String :=
  s!"Inject version in resource path: '{path}' => '{result}'"

/-- The text of the record about a path that a token was taken off. -/
def removeText (path result : String) : String :=
  s!"Remove version from resource path: '{path}' => '{result}'"

/-- The path with the token of the resource that it names. -/
def injectVersion (handler : Handler) (path : String) : Serving String := do
  match ← Serving.ask handler.store path with
  | none => throw (.resource { failure := .injection path handler.store.name })
  | some location =>
    let versioned := VersionToken.inject path (← Serving.lastModified location)
    handler.note Level.debug (injectText path versioned)
    return versioned

/-- The URL of a resource, with or without its version token. -/
def urlFor (handler : Handler) (path : String) (versioned : Bool) : Serving String := do
  let relative := Text.dropSlashes path
  let shown ← if versioned then handler.injectVersion relative else pure relative
  return handler.urlPath ++ "/" ++ shown

/-! ## Answers -/

/-- Sets a status and commits. -/
def answer (status : Status) : Handling Unit := do
  Handling.write (Sink.setStatus status)
  Handling.write Sink.commit

/-- Sends a location: with its media type if that is known, else as a download. -/
def sendResource (handler : Handler) (location : Location) : Handling Unit := do
  match MediaTypes.nonEmpty? (handler.mediaTypes.contentType? location.filename) with
  | some contentType =>
    Handling.serve (handler.note Level.debug s!"Streaming as resource '{location.uri}'")
    Handling.write (Sink.setHeader "Content-Type" contentType)
    Handling.write (Sink.setStatus .ok)
    let number ← Handling.serve (Serving.openStream location)
    Handling.write (Sink.attach number)
  | none =>
    Handling.serve (handler.note Level.debug s!"Streaming as file '{location.uri}'")
    Handling.write (Sink.setStatus .ok)
    let number ← Handling.serve (Serving.openStream location)
    Handling.write (Sink.attachFile location.filename number)
  Handling.write Sink.commit

/-- A fault of input or output while a location is sent is a fault of the resource. -/
def streamFault (location : Location) : Fault → Fault
  | .io fault => .resource ⟨.streaming location.uri, some (.io fault)⟩
  | fault => fault

/-- Answers with a location, or with "not modified" if the client has it already. -/
def streamResource (handler : Handler) (request : Request) (location : Location) :
    Handling Unit := do
  try
    let lastModified ← Handling.serve (Serving.lastModified location)
    handler.policy.apply request lastModified
    if (← Handling.response).status = .notModified then Handling.write Sink.commit
    else handler.sendResource location
  catch fault => throw (streamFault location fault)

/-- Answers for a path inside of the store, with or without a version token. -/
def handleResource (handler : Handler) (request : Request) (path : String) : Handling Unit := do
  let plain := VersionToken.remove path
  if plain ≠ path then
    Handling.serve (handler.note Level.debug (removeText path plain))
  match ← Handling.serve (Serving.ask handler.store plain) with
  | none => answer .notFound
  | some location => handler.streamResource request location

/-- Answers a request. -/
def handle (handler : Handler) (request : Request) : Handling Unit := do
  let path := handler.requestedPath request
  if (ResourcePath.segments? path).isNone then
    Handling.serve (handler.note Level.warning s!"Path traversal attempt: {path}")
    answer .forbidden
  else if path.isEmpty || Text.endsWith path "/" then answer .notFound
  else handler.handleResource request path

end Handler

end VersionedAssets
