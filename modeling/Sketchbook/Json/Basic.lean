import Sketchbook.Entries
/-!
JSON values. An object holds its members in ascending order of their names, each name once.
-/
namespace Sketchbook

/-- A number of a JSON value. An integer lies between `-2 ^ 63` and `2 ^ 64 - 1` and is never equal
to a float; a float is finite. -/
inductive JsonNumber where
  | integer (value : Int)
  | float (value : Float)
  deriving BEq, Inhabited

/-- A JSON value. -/
inductive Json where
  | null
  | boolean (value : Bool)
  | number (value : JsonNumber)
  | text (value : String)
  | list (items : List Json)
  | object (members : List (String × Json))
  deriving Inhabited

namespace Json

mutual

/-- Whether two values are the same. Floats are compared as floats, so zero is minus zero. -/
def same : Json → Json → Bool
  | .null, .null => true
  | .boolean a, .boolean b => a == b
  | .number a, .number b => a == b
  | .text a, .text b => a == b
  | .list items, .list others => sameItems items others
  | .object members, .object others => sameMembers members others
  | _, _ => false

/-- Whether items are the same in the same order. -/
def sameItems : List Json → List Json → Bool
  | [], [] => true
  | item :: rest, other :: others => same item other && sameItems rest others
  | _, _ => false

/-- Whether members are the same in the same order. -/
def sameMembers : List (String × Json) → List (String × Json) → Bool
  | [], [] => true
  | (name, value) :: rest, (other, value') :: others =>
    name == other && same value value' && sameMembers rest others
  | _, _ => false

end

instance : BEq Json := ⟨same⟩

/-- A number as a value. A float that is not finite stands for nothing. -/
def ofNumber : JsonNumber → Json
  | .integer n => .number (.integer n)
  | .float x => if x.isFinite then .number (.float x) else .null

/-- The integers that a JSON number holds exactly. -/
def IntegerRange (n : Int) : Prop := -0x8000000000000000 ≤ n ∧ n ≤ 0xFFFFFFFFFFFFFFFF

instance (n : Int) : Decidable (IntegerRange n) := inferInstanceAs (Decidable (_ ∧ _))

/-- The object with the given members; of those of one name the last stays. -/
def ofMembers (members : List (String × Json)) : Json :=
  .object (members.foldl (fun entries m => Entries.insert m.1 m.2 entries) [])

/-- The value of a member of an object. -/
def get? (name : String) : Json → Option Json
  | .object members => Entries.get? name members
  | _ => none

mutual

/-- How many lists and objects are open around the innermost value. -/
def depth : Json → Nat
  | .list items => depthItems items + 1
  | .object members => depthMembers members + 1
  | _ => 0

/-- The depth of the deepest item. -/
def depthItems : List Json → Nat
  | [] => 0
  | item :: rest => max item.depth (depthItems rest)

/-- The depth of the deepest member. -/
def depthMembers : List (String × Json) → Nat
  | [] => 0
  | (_, value) :: rest => max value.depth (depthMembers rest)

end

end Json

end Sketchbook
