import VersionedAssets.Fields
import VersionedAssets.Text.Percent

/-! # Query strings

A query string is a list of `name=value` pieces separated by `&`. A piece without `=` has the empty
value, an empty piece is dropped, and a name that occurs several times keeps all its values in
order.
-/

namespace VersionedAssets.Query

/-- The name and value that a piece writes; none for the empty piece. -/
def readPiece? (piece : List Char) : Option (String × String) :=
  if piece.isEmpty then none
  else match Text.cutFirst? '=' piece with
    | some (name, value) => some (Text.Percent.decodeField name, Text.Percent.decodeField value)
    | none => some (Text.Percent.decodeField piece, "")

/-- Adds a value after the earlier values of its name. -/
def addValue (fields : Fields (List String)) (entry : String × String) : Fields (List String) :=
  fields.put entry.1 ((fields.get? entry.1).getD [] ++ [entry.2])

/-- The values of each name of a query string, in order. -/
def read (query : String) : Fields (List String) :=
  ((Text.pieceLists '&' query.toList).filterMap readPiece?).foldl addValue Fields.empty

/-- The values as `name=value` pieces, not percent-coded. -/
def render (fields : Fields (List String)) : String :=
  Text.join "&" (fields.entries.flatMap fun (name, values) => values.map fun v => name ++ "=" ++ v)

end VersionedAssets.Query
