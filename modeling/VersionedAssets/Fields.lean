/-! # Fields

Named values in the order in which their names were first written. Writing a name again keeps its
place and replaces its value.
-/

namespace VersionedAssets

/-- Named values in order of insertion. -/
structure Fields (α : Type) where
  entries : List (String × α) := []
  deriving DecidableEq, Repr, Inhabited

namespace Fields

variable {α : Type}

/-- No fields. -/
def empty : Fields α := ⟨[]⟩

/-- The value of a name, if it was written. -/
def get? (fields : Fields α) (name : String) : Option α := fields.entries.lookup name

/-- Was the name written? -/
def has (fields : Fields α) (name : String) : Bool := (fields.get? name).isSome

/-- The entries with the value of a name replaced where it stands, or written at the end. -/
def putEntry (name : String) (value : α) : List (String × α) → List (String × α)
  | [] => [(name, value)]
  | entry :: rest =>
    if entry.1 = name then (name, value) :: rest else entry :: putEntry name value rest

/-- Writes a name. -/
def put (fields : Fields α) (name : String) (value : α) : Fields α :=
  ⟨putEntry name value fields.entries⟩

/-- Writes a name unless it was written before. -/
def putNew (fields : Fields α) (name : String) (value : α) : Fields α :=
  if fields.has name then fields else fields.put name value

/-- The fields that result from writing the entries one after the other. -/
def ofList (entries : List (String × α)) : Fields α :=
  entries.foldl (fun fields entry => fields.put entry.1 entry.2) empty

end Fields

end VersionedAssets
