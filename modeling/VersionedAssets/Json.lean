import VersionedAssets.Fields
import VersionedAssets.Number.FloatText
import VersionedAssets.Text.Quoted

/-! # JSON values

The values that response bodies and access records hold, and their text. A text is either on one
line, with a blank after each comma and colon, or indented; characters outside of ASCII are written
as they are or as escapes of UTF-16 units.
-/

namespace VersionedAssets

/-- A JSON value. Integers and floats are told apart, because their texts differ. -/
inductive Json where
  | null
  | bool (b : Bool)
  | int (n : Int)
  | float (x : Float)
  | text (s : String)
  | array (items : List Json)
  | object (members : List (String × Json))
  deriving Inhabited

namespace Json

/-- How a value is written. -/
structure Style where
  /-- The blanks that each level is indented by; none for a single line. -/
  indent : Option Nat := none
  /-- Are characters outside of printable ASCII escaped? -/
  ascii : Bool := false
  deriving DecidableEq, Repr

/-- A UTF-16 unit as an escape. -/
def unitEscape (n : Nat) : List Char := '\\' :: 'u' :: Text.Quoted.hex 4 n

/-- A character as escapes of its UTF-16 units. -/
def unitsEscape (c : Char) : List Char :=
  let n := c.toNat
  if n < 0x10000 then unitEscape n
  else unitEscape (0xD800 + (n - 0x10000) / 0x400) ++ unitEscape (0xDC00 + (n - 0x10000) % 0x400)

/-- A character inside of a JSON string. -/
def escape (ascii : Bool) (c : Char) : List Char :=
  if c = '"' ∨ c = '\\' then ['\\', c]
  else if c = '\n' then ['\\', 'n']
  else if c = '\r' then ['\\', 'r']
  else if c = '\t' then ['\\', 't']
  else if c.toNat = 0x8 then ['\\', 'b']
  else if c.toNat = 0xC then ['\\', 'f']
  else if c.toNat < 0x20 ∨ (ascii ∧ 0x7E < c.toNat) then unitsEscape c
  else [c]

/-- A JSON string. -/
def writeText (style : Style) (s : String) : String :=
  String.ofList ('"' :: s.toList.flatMap (escape style.ascii) ++ ['"'])

/-- What stands before an item at a depth: nothing on a single line, else a new line. -/
def lineStart (style : Style) (depth : Nat) : String :=
  match style.indent with
  | none => ""
  | some n => String.ofList ('\n' :: List.replicate (n * depth) ' ')

/-- What stands between two items at a depth. -/
def separator (style : Style) (depth : Nat) : String :=
  match style.indent with
  | none => ", "
  | some _ => "," ++ lineStart style depth

/-- Items between brackets at a depth; empty brackets hold no line break. -/
def enclose (style : Style) (depth : Nat) (opening closing : String) (items : List String) :
    String :=
  if items.isEmpty then opening ++ closing
  else opening ++ lineStart style (depth + 1) ++
    (separator style (depth + 1)).intercalate items ++ lineStart style depth ++ closing

mutual

/-- The text of a value at a depth. -/
def writeAt (style : Style) (depth : Nat) : Json → String
  | null => "null"
  | bool b => if b then "true" else "false"
  | int n => toString n
  | float x =>
    match Number.Binary64.ofFloat? x with
    | some b => Number.FloatText.ofBinary64 b
    | none => Number.FloatText.ofInfinite x "Infinity" "NaN"
  | text s => writeText style s
  | array items => enclose style depth "[" "]" (writeItems style (depth + 1) items)
  | object members => enclose style depth "\x7b" "\x7d" (writeMembers style (depth + 1) members)

/-- The texts of the items of an array at a depth. -/
def writeItems (style : Style) (depth : Nat) : List Json → List String
  | [] => []
  | item :: rest => writeAt style depth item :: writeItems style depth rest

/-- The texts of the members of an object at a depth. -/
def writeMembers (style : Style) (depth : Nat) : List (String × Json) → List String
  | [] => []
  | (name, value) :: rest =>
    (writeText style name ++ ": " ++ writeAt style depth value) :: writeMembers style depth rest

end

/-- The text of a value. -/
def write (style : Style) (value : Json) : String := writeAt style 0 value

end Json

end VersionedAssets
