import Sketchbook.Json.Error
import Sketchbook.Json.Basic
/-!
What an editor hands over as the state of its drawing: data as rich as programs have it, of which
not all can be told in JSON.
-/
namespace Sketchbook

/-- The data of an editor. -/
inductive Model where
  | null
  | boolean (value : Bool)
  | integer (value : Int)
  | float (value : Float)
  | text (value : String)
  | list (items : List Model)
  | map (entries : List (Model × Model))
  /-- Data that refuses to be written, and why. -/
  | unwritable (reason : String)
  deriving Inhabited

namespace Model

/-- The name of a member of an object: a text, or the text of a number or a truth value. -/
def toName : Model → Except Json.Cause String
  | .text value => .ok value
  | .integer value => .ok (toString value)
  | .float value =>
    if value.isFinite then .ok (Decimal.compactStyle.render value) else .error .nameNotFinite
  | .boolean value => .ok (toString value)
  | .unwritable reason => .error (.refused reason)
  | _ => .error .nameNotText

mutual

/-- The data as JSON. Floats that are not finite become null, and integers must fit into 64 bits. -/
def toJson : Model → Except Json.Cause Json
  | .null => .ok .null
  | .boolean value => .ok (.boolean value)
  | .integer value =>
    if Json.IntegerRange value then .ok (.number (.integer value)) else .error .numberOutOfRange
  | .float value => .ok (.ofNumber (.float value))
  | .text value => .ok (.text value)
  | .list items => (itemsToJson items).map .list
  | .map entries => (entriesToJson entries).map .ofMembers
  | .unwritable reason => .error (.refused reason)

/-- The items in order, up to the first that cannot be told. -/
def itemsToJson : List Model → Except Json.Cause (List Json)
  | [] => .ok []
  | item :: rest => do
    let item ← item.toJson
    let rest ← itemsToJson rest
    .ok (item :: rest)

/-- The entries in order, up to the first that cannot be told. -/
def entriesToJson : List (Model × Model) → Except Json.Cause (List (String × Json))
  | [] => .ok []
  | (key, value) :: rest => do
    let name ← key.toName
    let value ← value.toJson
    let rest ← entriesToJson rest
    .ok ((name, value) :: rest)

end

mutual

/-- A JSON value as data of an editor. -/
def ofJson : Json → Model
  | .null => .null
  | .boolean value => .boolean value
  | .number (.integer value) => .integer value
  | .number (.float value) => .float value
  | .text value => .text value
  | .list items => .list (ofItems items)
  | .object members => .map (ofMembers members)

/-- JSON items as data of an editor. -/
def ofItems : List Json → List Model
  | [] => []
  | item :: rest => ofJson item :: ofItems rest

/-- JSON members as data of an editor. -/
def ofMembers : List (String × Json) → List (Model × Model)
  | [] => []
  | (name, value) :: rest => (.text name, ofJson value) :: ofMembers rest

end

end Model

end Sketchbook
