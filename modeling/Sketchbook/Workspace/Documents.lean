import Sketchbook.Autosave.Session
import Sketchbook.Workspace.Basic
/-!
What a user does with the documents of a workspace. Documents are named by texts that need not be
ids.
-/
namespace Sketchbook.Workspace

/-- Takes a user's text as a document id. -/
def parseId (raw : String) : Except CommandError DocumentId :=
  (DocumentId.parse raw).mapError (.invalidId raw)

/-- The content of a document. -/
def getDocument (w : Workspace) (raw : String) : Except CommandError Content := do
  let id ← parseId raw
  (w.library.get id).mapError (.cannotReadDocument id)

/-- The text to store as a document: a file's, or else the input's. -/
def source (w : Workspace) (file : Option Path) (input : ByteArray) : Except CommandError String :=
  match file with
  | some path => (w.disk.readText path).mapError (.cannotReadFile path)
  | none => (decodeText input).mapError .cannotReadInput

/-- The id and the content of a document that is to be stored. -/
def prepare (w : Workspace) (raw : String) (file : Option Path) (input : ByteArray) :
    Except CommandError (DocumentId × Content) := do
  let id ← parseId raw
  let text ← w.source file input
  let content ← (Content.ofText text).mapError .malformedContent
  return (id, content)

/-- Stores the content of a document, which comes from a file or else from the input. -/
def putDocument (w : Workspace) (raw : String) (file : Option Path) (input : ByteArray) :
    Noted (Except CommandError Unit × Workspace) :=
  match w.prepare raw file input with
  | .error e => pure (.error e, w)
  | .ok (id, content) => do
    match ← w.library.put id content with
    | .error e => return (.error (.cannotWriteDocument id e), w)
    | .ok l => return (.ok (), w.withLibrary l)

/-- The ids of the stored documents, in ascending order. -/
def listDocuments (w : Workspace) : Noted (Except CommandError (List DocumentId)) := do
  return (← w.library.list).mapError .store

/-- The id of a document that is to be removed, and the library without it. -/
def withoutDocument (w : Workspace) (raw : String) :
    Except CommandError (DocumentId × Library DirectoryRecords) := do
  let id ← parseId raw
  if ← (w.library.has id).mapError .store then
    let l ← (w.library.delete id).mapError .store
    return (id, l)
  else .error (.noSuchDocument id)

/-- Removes a stored document. If it was the current one, there is no current document any more. -/
def deleteDocument (w : Workspace) (raw : String) :
    Noted (Except CommandError Unit × Workspace) :=
  match w.withoutDocument raw with
  | .error e => pure (.error e, w)
  | .ok (id, l) => do
    let w := w.withLibrary l
    if (← w.preferences.currentDocument) = some id then
      let (result, p) := w.preferences.clear .currentDocument
      return (result.mapError .store, w.withPreferences p)
    else return (.ok (), w)

/-- Stores a new document with the empty scene and makes it the current one. Its id is drawn from a
random number. -/
def newDocument (w : Workspace) (bits : Nat) (name : String) :
    Noted (Except CommandError Descriptor × Workspace) := do
  let d := Descriptor.named bits name
  match ← w.library.put d.id .emptyScene with
  | .error e => return (.error (.store e), w)
  | .ok l =>
    let w := w.withLibrary l
    let (result, p) ← w.preferences.setCurrentDocument d.id
    return ((result.map fun () => d).mapError .store, w.withPreferences p)

/-- The id of the document to edit: the given one, or else the current one. -/
def resolveId (w : Workspace) (id : Option String) : Noted (Except CommandError DocumentId) :=
  match id with
  | some raw => pure (parseId raw)
  | none => do
    match ← w.preferences.currentDocument with
    | some id => return .ok id
    | none => return .error .noCurrentDocument

/-- Chooses the document to edit and makes it the current one, if that can be stored. It is shown by
the given name, or else by its id. -/
def chooseDocument (w : Workspace) (id name : Option String) :
    Noted (Except CommandError Descriptor × Workspace) := do
  match ← w.resolveId id with
  | .error e => return (.error e, w)
  | .ok id =>
    let (_, p) ← w.preferences.setCurrentDocument id
    return (.ok ⟨id, name.getD id.text⟩, w.withPreferences p)

/-- An editor for the documents of a workspace. -/
def editor (w : Workspace) : Editor DirectoryRecords := .ofLibrary w.library w.window

/-- What an edit session printed, and how it ended. -/
structure EditReport where
  printed : List String
  result : Except CommandError SessionSummary

/-- Edits a document with the lines of an input. Its content is printed first; if that is refused, no line
is taken. -/
def edit (w : Workspace) (id name : Option String) (input : List TimedLine)
    (output : Output := .endless) : Noted (EditReport × Workspace) := do
  match ← w.chooseDocument id name with
  | (.error e, w) => return (⟨[], .error e⟩, w)
  | (.ok d, w) =>
    match output.refusal? with
    | some e =>
      let _ ← Session.start w.editor d
      return (⟨[], .error (.cannotPrint e)⟩, w)
    | none =>
      let report ← Session.run w.editor d input
      return (⟨[report.printed], report.result.mapError .cannotReadInput⟩,
        w.withLibrary report.editor.library)

end Sketchbook.Workspace
