import Sketchbook.Proofs.Document.Ids
import Sketchbook.Proofs.Store.Directory

/-!
Names of records. The name of the file for a key tells the key, whatever its characters are, and leads to
nothing but an entry in a directory. For the id of a document it is also short enough for a disk and is
split where the ending was put (`record_names_are_faithful`).
-/
namespace Sketchbook.DirectoryRecords

/-- The most bytes in the name of a document's file: three for a byte of the id, and the ending. -/
def recordNameLimit : Nat := 245

/-- The name of the file for a key can be read back and is no path. -/
structure Faithful (key : String) : Prop where
  named : fileName key = Text.percentEncode key ++ ".json"
  decoded : Text.percentDecode? (Text.percentEncode key) = some key
  /-- The key is spelled by plain characters and escapes. -/
  spelled : Text.Spells (Text.percentEncode key).toList key.toUTF8.data.toList
  noSlash : '/' ∉ (fileName key).toList
  noNul : '\x00' ∉ (fileName key).toList

/-- The name of a document's file is one that a disk allows, and it is split into the encoded id and the
ending. -/
structure Storable (id : DocumentId) : Prop where
  short : (fileName id.text).utf8ByteSize ≤ recordNameLimit
  notDot : fileName id.text ≠ "."
  notDots : fileName id.text ≠ ".."
  split : Path.splitEnding (fileName id.text) = (Text.percentEncode id.text, some "json")

private theorem faithful (key : String) : Faithful key := by
  have name := isName_fileName key
  exact {
    named := by rw [fileName, String.append_assoc]; rfl
    decoded := Text.percentDecode?_percentEncode key
    spelled := Text.spells_percentEncode key
    noSlash := name.noSlash
    noNul := name.noNul }

theorem storable (id : DocumentId) : Storable id := by
  have name := isName_fileName id.text
  constructor
  case short =>
    have size := utf8ByteSize_fileName id.text
    have most := id.isIdText.short
    unfold recordNameLimit
    omega
  case notDot => exact name.notDot
  case notDots => exact name.notDots
  case split => exact splitEnding_fileName (DocumentId.ne_empty_of_valid id.valid)

/-- Names of records are faithful: every key is read back from the name of its file, so that different
keys have different files, and the names for documents can stand in a directory. -/
theorem record_names_are_faithful :
    (∀ key, Faithful key) ∧ Function.Injective fileName ∧ ∀ id : DocumentId, Storable id :=
  ⟨faithful, fileName_injective, storable⟩

end Sketchbook.DirectoryRecords
