import Sketchbook.Text.Blank
import Sketchbook.Text.ByteSize
import Sketchbook.Text.Quoted
/-!
Document ids: texts of at most eighty bytes with a character that is not blank and without control
characters. A `DocumentId` holds the proof that its text is one.
-/
namespace Sketchbook

/-- Whether a character is a control character. -/
def isControl (c : Char) : Bool := c.toNat < 0x20 || (0x7F ≤ c.toNat && c.toNat ≤ 0x9F)

/-- Why a text is no document id. -/
inductive IdFault where
  | blank
  | tooLong (bytes : Nat)
  | hasControl (raw : String)
  deriving DecidableEq, Repr

namespace DocumentId

/-- The most bytes that an id may have. -/
def byteLimit : Nat := 80

/-- The first reason why a text is no document id. -/
def fault? (raw : String) : Option IdFault :=
  if raw.toList.all Text.isBlank then some .blank
  else if byteLimit < raw.utf8ByteSize then some (.tooLong raw.utf8ByteSize)
  else if raw.toList.any isControl then some (.hasControl raw)
  else none

end DocumentId

def IdFault.message : IdFault → String
  | .blank => "document id is empty"
  | .tooLong bytes => s!"document id is {bytes} bytes, limit is {DocumentId.byteLimit}"
  | .hasControl raw => s!"document id {Text.quoted raw} contains control characters"

/-- A text that names a document. -/
structure DocumentId where
  text : String
  valid : DocumentId.fault? text = none

namespace DocumentId

instance : DecidableEq DocumentId := fun a b =>
  decidable_of_iff (a.text = b.text) ⟨fun h => by cases a; cases b; simp_all, fun h => by rw [h]⟩

instance : ToString DocumentId := ⟨DocumentId.text⟩

/-- Ids are ordered as their texts. -/
instance : LT DocumentId := ⟨fun a b => a.text < b.text⟩

instance : DecidableLT DocumentId := fun a b => inferInstanceAs (Decidable (a.text < b.text))

/-- Takes a text as a document id. -/
def parse (raw : String) : Except IdFault DocumentId :=
  match h : fault? raw with
  | none => .ok ⟨raw, h⟩
  | some fault => .error fault

theorem parse_text (id : DocumentId) : parse id.text = .ok id := by
  unfold parse
  split
  · rfl
  · next h => rw [id.valid] at h; cases h

theorem text_of_parse {raw : String} {id : DocumentId} (h : parse raw = .ok id) :
    id.text = raw := by
  unfold parse at h
  split at h
  · cases h; rfl
  · cases h

/-- Ids in ascending order; equal ones all stay. -/
def sort (ids : List DocumentId) : List DocumentId :=
  ids.mergeSort fun a b => !decide (b < a)

end DocumentId

end Sketchbook
