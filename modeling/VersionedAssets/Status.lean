/-! # Status codes

The statuses that a response can have, with their codes and reason phrases.
-/

namespace VersionedAssets

/-- The status of a response. -/
inductive Status where
  | ok
  | noContent
  | notModified
  | forbidden
  | notFound
  | methodNotAllowed
  | internalError
  deriving DecidableEq, Repr, Inhabited

namespace Status

/-- All statuses. -/
def all : List Status :=
  [ok, noContent, notModified, forbidden, notFound, methodNotAllowed, internalError]

/-- The code of a status. -/
def code : Status → Nat
  | ok => 200
  | noContent => 204
  | notModified => 304
  | forbidden => 403
  | notFound => 404
  | methodNotAllowed => 405
  | internalError => 500

/-- The reason phrase of a status. -/
def phrase : Status → String
  | ok => "OK"
  | noContent => "No Content"
  | notModified => "Not Modified"
  | forbidden => "Forbidden"
  | notFound => "Not Found"
  | methodNotAllowed => "Method Not Allowed"
  | internalError => "Internal Server Error"

/-- The status with a code. -/
def ofCode? (code : Int) : Option Status := all.find? fun status => (status.code : Int) == code

/-- The code followed by the phrase. -/
def line (status : Status) : String := toString status.code ++ " " ++ status.phrase

def isSuccess (status : Status) : Bool := 200 ≤ status.code && status.code < 300
def isRedirect (status : Status) : Bool := 300 ≤ status.code && status.code < 400
def isClientError (status : Status) : Bool := 400 ≤ status.code && status.code < 500
def isServerError (status : Status) : Bool := 500 ≤ status.code && status.code < 600
def isError (status : Status) : Bool := 400 ≤ status.code

/-- May a response with this status have a body? -/
def allowsBody (status : Status) : Bool := status ≠ notModified && status ≠ noContent

theorem ofCode?_code (status : Status) : ofCode? status.code = some status := by
  cases status <;> rfl

end Status

end VersionedAssets
