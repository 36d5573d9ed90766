import Sketchbook.Document.Content
import Sketchbook.Notice
import Sketchbook.Store.Records
/-!
The library: the contents of documents as records under their ids. A document that has no record
holds the empty scene.
-/
namespace Sketchbook

/-- The documents in a store of records. -/
structure Library (σ : Type) where
  records : σ

namespace Library

variable {σ : Type} [Records σ]

/-- The content of a document. -/
def get (l : Library σ) (id : DocumentId) : Except StoreError Content := do
  match ← Records.get l.records id.text with
  | some text => Content.ofText text
  | none => .ok .emptyScene

/-- Stores the text of a document as it is. -/
def putText (l : Library σ) (id : DocumentId) (text : String) :
    Noted (Except StoreError (Library σ)) := do
  match Records.put l.records id.text text with
  | .error e => return .error e
  | .ok records =>
    note (.stored id)
    return .ok ⟨records⟩

/-- Stores the content of a document. -/
def put (l : Library σ) (id : DocumentId) (c : Content) : Noted (Except StoreError (Library σ)) :=
  l.putText id c.toText

/-- Removes the record of a document, if there is one. -/
def delete (l : Library σ) (id : DocumentId) : Except StoreError (Library σ) :=
  (Records.delete l.records id.text).map .mk

/-- Whether a document has a record. -/
def has (l : Library σ) (id : DocumentId) : Except StoreError Bool :=
  Records.contains l.records id.text

/-- The ids among keys; a notice tells of every other key. -/
def idsOf : List String → Noted (List DocumentId)
  | [] => pure []
  | key :: keys =>
    match DocumentId.parse key with
    | .ok id => do return id :: (← idsOf keys)
    | .error fault => do
      note (.skippedKey key fault)
      idsOf keys

/-- The ids of the documents that have a record, in ascending order. -/
def list (l : Library σ) : Noted (Except StoreError (List DocumentId)) := do
  match Records.keys l.records with
  | .error e => return .error e
  | .ok keys => return .ok (DocumentId.sort (← idsOf keys))

end Library

end Sketchbook
