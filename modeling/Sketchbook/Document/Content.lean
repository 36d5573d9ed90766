import Sketchbook.Document.Model
import Sketchbook.Json.Printer
import Sketchbook.Json.Shape
import Sketchbook.Store.Error
/-!
The content of a document: any JSON value. A document that was never saved holds the empty scene.
-/
namespace Sketchbook

/-- The content of a document. -/
structure Content where
  value : Json
  deriving BEq, Inhabited

namespace Content

/-- The scene without any element. -/
def emptyScene : Content := ⟨.object [("elements", .list [])]⟩

def isEmptyScene (c : Content) : Bool := c == emptyScene

/-- Reads content from JSON text. -/
def ofText (text : String) : Except StoreError Content :=
  match Json.read text with
  | .ok value => .ok ⟨value⟩
  | .error e => .error (.malformedContent e)

/-- The content as JSON text without blanks. -/
def toText (c : Content) : String := c.value.compact

/-- Takes over the data of an editor. -/
def ofModel (m : Model) : Except StoreError Content :=
  match m.toJson with
  | .ok value => .ok ⟨value⟩
  | .error cause => .error (.malformedContent (.ofCause cause))

/-- The content as data of a wanted shape. -/
def toModel {α : Type} (shape : Json.Shape α) (c : Content) : Except StoreError α :=
  (shape c.value).mapError fun cause => .malformedContent (.ofCause cause)

end Content

end Sketchbook
