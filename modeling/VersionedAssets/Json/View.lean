import VersionedAssets.Json.Reader
import VersionedAssets.Number.Binary64

/-! # Looking into JSON

Views of a JSON value by the kind of value that is expected. A value of another kind looks like one
that is missing, and a member that is null counts as missing. Where a fallback is given, it stands
in for what is missing.
-/

namespace VersionedAssets.Json

/-! ## Values -/

/-- The items of an array. -/
def items : Json → List Json
  | array items => items
  | _ => []

/-- The members of an object. -/
def members : Json → List (String × Json)
  | object members => members
  | _ => []

/-- A text, or the numeral of an integer. -/
def toText? : Json → Option String
  | text s => some s
  | int n => some (toString n)
  | _ => none

/-- A text, or the empty one. -/
def toText (value : Json) : String := value.toText?.getD ""

/-- An integer. Truth values are zero and one, and fractions are cut off. -/
def toInt? : Json → Option Int
  | int n => some n
  | bool b => some (if b then 1 else 0)
  | float x => (Number.Binary64.ofFloat? x).map Number.Binary64.truncate
  | _ => none

/-- An integer, or zero. -/
def toInt (value : Json) : Int := value.toInt?.getD 0

/-- The float nearest to a number, or zero. -/
def toFloat : Json → Float
  | float x => x
  | int n => if n < 0 then -(nearest n.natAbs 0) else nearest n.natAbs 0
  | _ => 0

/-- Is the value true, or a number other than zero? -/
def isTrue : Json → Bool
  | bool b => b
  | int n => n ≠ 0
  | _ => false

/-- The item of an array at an index. -/
def itemAt (value : Json) (i : Nat) : Json := value.items.getD i null

/-- Pairs of texts. -/
def textPairs (value : Json) : List (String × String) :=
  value.items.map fun pair => ((pair.itemAt 0).toText, (pair.itemAt 1).toText)

/-! ## Members of objects -/

/-- The last member with a name, unless it is null. -/
def member? (value : Json) (name : String) : Option Json :=
  (value.members.reverse.lookup name).filter fun
    | null => false
    | _ => true

/-- The member with a name, or null. -/
def member (value : Json) (name : String) : Json := (value.member? name).getD null

/-- The text of a member. -/
def textAt? (value : Json) (name : String) : Option String := (value.member? name).bind toText?

/-- The text of a member, or the given one. -/
def textAt (value : Json) (name : String) (other : String := "") : String :=
  (value.textAt? name).getD other

/-- The integer of a member, or the given one. -/
def intAt (value : Json) (name : String) (other : Int) : Int :=
  (value.member name).toInt?.getD other

/-- The truth of a member, or the given one. -/
def flagAt (value : Json) (name : String) (other : Bool := false) : Bool :=
  ((value.member? name).map isTrue).getD other

/-- The items of a member. -/
def itemsAt (value : Json) (name : String) : List Json := (value.member name).items

/-- The items of a member as texts. -/
def textsAt (value : Json) (name : String) : List String := (value.itemsAt name).map toText

end VersionedAssets.Json
