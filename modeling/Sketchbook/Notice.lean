import Sketchbook.Document.Descriptor
import Sketchbook.Preference.Key
/-!
Notices: what an operation tells about itself beside its result, as a record of what happened.
`Noted` carries the notices of a computation in order.
-/
namespace Sketchbook

/-- How grave a notice is. -/
inductive Level where
  | debug
  | info
  | warning
  | error
  deriving DecidableEq, Repr

/-- The word in front of a notice. -/
def Level.word : Level → String
  | .debug => "DEBUG"
  | .info => "INFO"
  | .warning => "WARN"
  | .error => "ERROR"

/-- Something that happened. -/
inductive Notice where
  | stored (id : DocumentId)
  | skippedKey (key : String) (fault : IdFault)
  | activating (descriptor : Descriptor)
  | discarding (id : DocumentId)
  | droppedHydration (id : DocumentId)
  | hydrated (id : DocumentId)
  | hydratedEmpty (id : DocumentId) (error : StoreError)
  | editWithoutDocument
  | editBeforeHydration (id : DocumentId)
  | editUnwritable (id : DocumentId) (error : StoreError)
  | superseded (id : DocumentId)
  | saved (id : DocumentId)
  | notSaved (id : DocumentId) (error : StoreError)
  | preferenceSet (key : PreferenceKey) (value : String)
  | currentDocumentIgnored (fault : IdFault)
  | fontAdded (name : String)
  | configUsed (path : Path)

namespace Notice

def level : Notice → Level
  | .stored _ | .activating _ | .droppedHydration _ | .superseded _ | .preferenceSet _ _
  | .configUsed _ => .debug
  | .hydrated _ | .saved _ | .fontAdded _ => .info
  | .skippedKey _ _ | .discarding _ | .editWithoutDocument | .editBeforeHydration _
  | .currentDocumentIgnored _ => .warning
  | .hydratedEmpty _ _ | .editUnwritable _ _ | .notSaved _ _ => .error

def text : Notice → String
  | .stored id => s!"Stored document {id}"
  | .skippedKey key fault =>
    s!"Skipping stored key {Text.quoted key}: {StoreError.invalidId fault}"
  | .activating d => s!"Activating document {d.id} ({d.name})"
  | .discarding id => s!"Discarding unsaved changes to {id}"
  | .droppedHydration id => s!"Dropping stale hydration of {id}"
  | .hydrated id => s!"Hydrated document {id}"
  | .hydratedEmpty id error => s!"Failed to load document {id}, starting empty: {error}"
  | .editWithoutDocument => "Ignoring edit with no active document"
  | .editBeforeHydration id => s!"Ignoring edit to {id} before it finished loading"
  | .editUnwritable id error => s!"Not saving edit to {id}: {error}"
  | .superseded id => s!"Superseded pending write of {id}"
  | .saved id => s!"Saved document {id}"
  | .notSaved id error => s!"Changes to {id} were not saved: {error}"
  | .preferenceSet key value => s!"Setting {key.name} = {Text.quoted value}"
  | .currentDocumentIgnored fault =>
    s!"Ignoring stored current document id: {StoreError.invalidId fault}"
  | .fontAdded name => s!"Added custom board font {Text.quoted name}"
  | .configUsed path => s!"Using config {path}"

/-- A notice as one line. -/
def line (n : Notice) : String := s!"{n.level.word} {n.text}"

end Notice

/-- A result with the notices that led to it. -/
structure Noted (α : Type) where
  value : α
  notices : List Notice

namespace Noted

instance : Monad Noted where
  pure a := ⟨a, []⟩
  bind x f := ⟨(f x.value).value, x.notices ++ (f x.value).notices⟩

@[simp] theorem value_pure {α : Type} (a : α) : (pure a : Noted α).value = a := rfl

@[simp] theorem notices_pure {α : Type} (a : α) : (pure a : Noted α).notices = [] := rfl

@[simp] theorem value_bind {α β : Type} (x : Noted α) (f : α → Noted β) :
    (x >>= f).value = (f x.value).value := rfl

@[simp] theorem notices_bind {α β : Type} (x : Noted α) (f : α → Noted β) :
    (x >>= f).notices = x.notices ++ (f x.value).notices := rfl

end Noted

/-- Gives a notice. -/
def note (n : Notice) : Noted Unit := ⟨(), [n]⟩

@[simp] theorem value_note (n : Notice) : (note n).value = () := rfl

@[simp] theorem notices_note (n : Notice) : (note n).notices = [n] := rfl

end Sketchbook
