import Sketchbook.Autosave.QuietQueue
import Sketchbook.Document.Library
/-!
The document that is being edited, and the saving of its edits. A document is loaded when it becomes
active, and an edit is written when no other has followed it within a window. Failures of the store
are told by notices and outcomes and never undo an edit.

Loading can be done elsewhere: `beginHydration` gives a ticket with which the answer is handed in
later; it is dropped if another document has become active meanwhile.
-/
namespace Sketchbook

/-- How far the active document has come. -/
inductive Phase where
  /-- Nothing is loaded. -/
  | unloaded
  /-- Loaded, and no edit waits. -/
  | hydrated
  /-- An edit waits for its write. -/
  | dirty
  deriving DecidableEq, Repr

/-- The result of one attempt to write an edit. -/
structure WriteOutcome where
  document : DocumentId
  result : Except StoreError Unit

/-- A claim to hand in the content of a document that is being loaded. -/
structure Ticket where
  document : DocumentId
  /-- Which activation the content is for. -/
  activation : Nat
  deriving DecidableEq

/-- The active document with its content and the edits that wait for their writes. -/
structure Editor (σ : Type) where
  library : Library σ
  active : Option Descriptor := none
  /-- What the user sees; nothing until the document is loaded. -/
  content : Option Content := none
  waiting : QuietQueue DocumentId String
  /-- How many times the active document has changed. -/
  activation : Nat := 0

namespace Editor

/-- The window after an edit when none is chosen, in milliseconds. -/
def defaultWindow : Nat := 200

variable {σ : Type} [Records σ]

/-- An editor without an active document. -/
def ofLibrary (library : Library σ) (window : Nat := defaultWindow) : Editor σ where
  library := library
  waiting := { window := window }

def phase (e : Editor σ) : Phase :=
  if e.content.isNone then .unloaded else if e.waiting.isEmpty then .hydrated else .dirty

/-- Tells of edits to the active document that will never be written. -/
def noteDiscarded (e : Editor σ) : Noted Unit :=
  match e.active with
  | some d => if e.waiting.isPending d.id then note (.discarding d.id) else pure ()
  | none => pure ()

/-- Makes a document the active one. Edits that wait are dropped. -/
def activate (e : Editor σ) (d : Descriptor) : Noted (Editor σ) := do
  e.noteDiscarded
  note (.activating d)
  return { e with
    active := some d, content := none, waiting := e.waiting.clear, activation := e.activation + 1 }

/-- Leaves the active document. Edits that wait are dropped. -/
def deactivate (e : Editor σ) : Noted (Editor σ) := do
  e.noteDiscarded
  return { e with
    active := none, content := none, waiting := e.waiting.clear, activation := e.activation + 1 }

/-- A ticket for the active document, unless its content is there. -/
def beginHydration (e : Editor σ) : Option Ticket :=
  match e.content, e.active with
  | none, some d => some ⟨d.id, e.activation⟩
  | _, _ => none

/-- Hands in the store's answer for a ticket; a failed read stands for the empty scene. Tells whether
the answer was taken. -/
def completeHydration (e : Editor σ) (ticket : Ticket) (fetched : Except StoreError Content) :
    Noted (Bool × Editor σ) := do
  if ticket.activation ≠ e.activation ∨ e.content.isSome then
    note (.droppedHydration ticket.document)
    return (false, e)
  else
    match fetched with
    | .ok content =>
      note (.hydrated ticket.document)
      return (true, { e with content := some content })
    | .error error =>
      note (.hydratedEmpty ticket.document error)
      return (true, { e with content := some .emptyScene })

/-- Loads the active document unless its content is there. -/
def hydrate (e : Editor σ) : Noted (Editor σ) :=
  match e.beginHydration with
  | none => pure e
  | some ticket => do
    let (_, e) ← e.completeHydration ticket (e.library.get ticket.document)
    return e

/-- Makes a document the active one and loads it. -/
def «open» (e : Editor σ) (d : Descriptor) : Noted (Editor σ) := do
  let e ← e.activate d
  e.hydrate

/-- The content and the text of an edit. -/
def encode (m : Model) : Except StoreError (Content × String) := do
  let content ← Content.ofModel m
  return (content, content.toText)

/-- Takes an edit of the active document at a time. It replaces the content at once, and its write
is put in the queue. Tells whether the edit was taken. -/
def change (e : Editor σ) (m : Model) (now : Nat) : Noted (Bool × Editor σ) :=
  match e.active, e.content with
  | none, _ => do
    note .editWithoutDocument
    return (false, e)
  | some d, none => do
    note (.editBeforeHydration d.id)
    return (false, e)
  | some d, some _ =>
    match encode m with
    | .error error => do
      note (.editUnwritable d.id error)
      return (false, e)
    | .ok (content, text) => do
      let (superseded, waiting) := e.waiting.schedule d.id text now
      if superseded then note (.superseded d.id)
      return (true, { e with content := some content, waiting })

/-- Writes texts one after the other; a write that fails does not stop those after it. -/
def writeAll (library : Library σ) :
    List (DocumentId × String) → Noted (List WriteOutcome × Library σ)
  | [] => pure ([], library)
  | (id, text) :: rest => do
    match ← library.putText id text with
    | .ok library =>
      note (.saved id)
      let (outcomes, library) ← writeAll library rest
      return (⟨id, .ok ()⟩ :: outcomes, library)
    | .error error =>
      note (.notSaved id error)
      let (outcomes, library) ← writeAll library rest
      return (⟨id, .error error⟩ :: outcomes, library)

/-- Writes every edit whose window has passed. -/
def poll (e : Editor σ) (now : Nat) : Noted (List WriteOutcome × Editor σ) := do
  let (due, waiting) := e.waiting.takeDue now
  let (outcomes, library) ← writeAll e.library due
  return (outcomes, { e with library, waiting })

/-- Writes the edits of the active document that wait, due or not. -/
def flush (e : Editor σ) : Noted (List WriteOutcome × Editor σ) :=
  match e.active with
  | none => pure ([], e)
  | some d => do
    let (texts, waiting) := e.waiting.takeNow d.id
    let (outcomes, library) ← writeAll e.library (texts.map fun text => (d.id, text))
    return (outcomes, { e with library, waiting })

end Editor

end Sketchbook
