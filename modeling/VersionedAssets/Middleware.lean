import VersionedAssets.Request
import VersionedAssets.World

/-! # Middleware

A layer of middleware stands around the part of the application that answers requests. It is given
the request and that part, and may ask it once, several times or never. The layer that was added
first is the outermost one.
-/

namespace VersionedAssets

/-- What answers requests. -/
abbrev Responder := Request → Serving Response

/-- A layer around a responder. -/
structure Middleware where
  name : String
  around : Responder → Responder

namespace Middleware

/-- A responder with layers around it, the first one outermost. -/
def wrap (layers : List Middleware) (inner : Responder) : Responder :=
  layers.foldr (fun layer inside => layer.around inside) inner

/-- The record about a layer that was added. -/
def noteAdded (layer : Middleware) : Serving Unit :=
  Serving.note Channel.middleware Level.debug s!"Added middleware: {layer.name}"

end Middleware

end VersionedAssets
