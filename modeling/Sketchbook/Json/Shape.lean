import Sketchbook.Json.Typed
/-!
Taking a JSON value as data of a wanted shape. A value of another shape is refused with the kind
that was found and the shape that was wanted.
-/
namespace Sketchbook.Json

/-- The kind of a value. -/
def Found.of : Json → Found
  | .null => .null
  | .boolean value => .boolean value
  | .number value => .ofNumber value
  | .text value => .text value
  | .list _ => .list
  | .object _ => .object

/-- A shape of data that JSON values can be taken as. -/
abbrev Shape (α : Type) := Json → Except Cause α

namespace Shape

/-- The refusal of a value of an unwanted kind. -/
def refuse {α : Type} (expected : String) (j : Json) : Except Cause α :=
  .error (.wrongType (.of j) expected)

def text : Shape String
  | .text value => .ok value
  | j => refuse "a string" j

def boolean : Shape Bool
  | .boolean value => .ok value
  | j => refuse "a boolean" j

/-- An integer within bounds; `name` is what the range is called. -/
def integer (least greatest : Int) (name : String) : Shape Int
  | .number (.integer n) =>
    if least ≤ n ∧ n ≤ greatest then .ok n else .error (.wrongValue (.integer n) name)
  | j => refuse name j

/-- Null, or a value of the given shape. -/
def optional {α : Type} (shape : Shape α) : Shape (Option α)
  | .null => .ok none
  | j => (shape j).map some

def list {α : Type} (shape : Shape α) : Shape (List α)
  | .list items => items.mapM shape
  | j => refuse "a sequence" j

def object {α : Type} (shape : Shape α) : Shape (List (String × α))
  | .object members => members.mapM fun (name, value) => (shape value).map (name, ·)
  | j => refuse "a map" j

/-- A record of one field, written as an object or as a list of one item. Other members of the
object do not matter. -/
def record {α : Type} (name field : String) (shape : Shape α) : Shape α
  | .list [] => .error (.wrongLength 0 s!"struct {name} with 1 element")
  | .list [item] => shape item
  | .list (item :: more) => do
    let _ ← shape item
    .error (.wrongLength (more.length + 1) "fewer elements in array")
  | j@(.object _) =>
    match j.get? field with
    | some value => shape value
    | none => .error (.missingMember field)
  | j => refuse s!"struct {name}" j

end Shape

end Sketchbook.Json
