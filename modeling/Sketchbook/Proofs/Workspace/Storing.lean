import Sketchbook.Proofs.Workspace.Runs

/-!
What a document that is put comes to. The record is the text of the content that the given text stands
for. If all numbers in it are integers, the same content is read from the record, and the printed text
put again is the same record (`documents_are_stored_as_read`).
-/
namespace Sketchbook.Workspace

variable {w : Workspace} {bits : Nat} {input : Input} {raw : String} {file : Option Path}
variable {id : DocumentId} {c : Content}

/-- What a user gives to be stored names a document, and is a text that stands for a content. -/
def Accepts (w : Workspace) (raw : String) (file : Option Path) (input : ByteArray) (id : DocumentId)
    (c : Content) : Prop :=
  id.text = raw ∧ ∃ text, w.source file input = .ok text ∧ Content.ofText text = .ok c

/-- A content is stored as a document. -/
structure Stores (w : Workspace) (id : DocumentId) (c : Content) : Prop where
  /-- It is what the record is read as. -/
  content : w.library.get id = .ok c
  /-- The record is its text. -/
  record : w.disk.readBytes (w.library.records.path id.text) = .ok c.toText.toUTF8
  /-- Its text is printed as one line when the document is asked for. -/
  printed : ∀ bits input, ∃ report,
    (w.perform bits input (.getDocument id.text)).value = (report, w) ∧ report.result = .ok () ∧
      report.text = c.toText ++ "\n"
  /-- What is printed can be put as the same document, and this changes nothing. -/
  again : ∀ bits (input : Input) file, w.source file input.bytes = .ok (c.toText ++ "\n") →
    (w.perform bits input (.putDocument id.text file)).value = (⟨[], .ok ()⟩, w)

/-- What comes of a command to store a document. -/
structure Storing (w : Workspace) (raw : String) (file : Option Path) (input : ByteArray)
    (done : CommandReport × Workspace) : Prop where
  /-- What names a document and stands for a content is stored wherever a record can be written. -/
  succeeds : ∀ id c, w.Accepts raw file input id c →
    (done.1.result = .ok () ↔ w.library.records.Takes raw)
  /-- A content that is stored is read and printed as it is if all its numbers are integers. -/
  stored : ∀ id c, w.Accepts raw file input id c → done.1.result = .ok () → c.value.floats = [] →
    done.2.Stores id c
  /-- Anything else is refused. -/
  rejected : (∀ id c, ¬ w.Accepts raw file input id c) → ∃ e, done.1.result = .error e
  /-- Where nothing is stored, nothing changes. -/
  unchanged : ∀ e, done.1.result = .error e → done.2 = w

/-! ### One document that is put -/

/-- To put a content is to put its text as the record, or to tell why that is refused. -/
private theorem value_perform_put (accepts : w.Accepts raw file input.bytes id c) :
    (w.perform bits input (.putDocument raw file)).value =
      match w.library.records.put id.text c.toText with
      | .ok records => (⟨[], .ok ()⟩, w.withLibrary ⟨records⟩)
      | .error e => (⟨[], .error (.cannotWriteDocument id e)⟩, w) := by
  have ended := value_putDocument_of_prepare (prepare_eq_ok.mpr accepts)
  simp only [perform, Noted.value_bind, ended]
  cases w.library.records.put id.text c.toText <;> rfl

private theorem value_perform_refused {e : CommandError}
    (refused : w.prepare raw file input.bytes = .error e) :
    (w.perform bits input (.putDocument raw file)).value = (⟨[], .error e⟩, w) := by
  have ended : w.putDocument raw file input.bytes = pure (.error e, w) := by
    rw [putDocument, refused]
  simp only [perform, ended]
  rfl

/-- A record that is the text of a content stores it, if the text stands for it, also as a line. -/
private theorem stores_of_holdsText {records : DirectoryRecords} {origin : Location}
    (own : w.library.records = records) (holds : records.HoldsText id.text c.toText origin)
    (whole : Content.ofText c.toText = .ok c) (line : Content.ofText (c.toText ++ "\n") = .ok c) :
    w.Stores id c := by
  subst own
  have content : w.library.get id = .ok c := by
    have read : Records.get w.library.records id.text = .ok (some c.toText) := holds.get
    simp only [Library.get, read, bind, Except.bind, whole]
  constructor
  case content => exact content
  case record => exact holds.readBytes
  case printed =>
    intro bits input
    have told : w.getDocument id.text = .ok c :=
      bind_eq_ok.mpr ⟨id, parseId_text id, mapError_eq_ok.mpr content⟩
    refine ⟨⟨[c.toText], .ok ()⟩, ?_, rfl, ?_⟩
    · rw [perform, told]
      rfl
    · simp [CommandReport.text, String.join]
  case again =>
    intro bits input file given
    rw [value_perform_put ⟨rfl, _, given, line⟩, holds.put]
    rfl

/-- What is given stands for one content of one document at most. -/
private theorem Accepts.unique {input : ByteArray} {other : DocumentId} {d : Content}
    (accepts : w.Accepts raw file input id c) (given : w.Accepts raw file input other d) :
    other = id ∧ d = c := by
  have prepared := (prepare_eq_ok.mpr given).symm.trans (prepare_eq_ok.mpr accepts)
  exact Prod.mk.inj (Except.ok.inj prepared)

private theorem storing_refused {input : ByteArray} {e : CommandError}
    (refused : w.prepare raw file input = .error e) :
    Storing w raw file input (⟨[], .error e⟩, w) := by
  have unaccepted (id : DocumentId) (c : Content) : ¬ w.Accepts raw file input id c := by
    intro accepts
    cases refused.symm.trans (prepare_eq_ok.mpr accepts)
  exact {
    succeeds id c accepts := absurd accepts (unaccepted id c)
    stored id c accepts := absurd accepts (unaccepted id c)
    rejected _ := ⟨e, rfl⟩
    unchanged _ _ := rfl }

private theorem storing_blocked {input : ByteArray} {e : CommandError}
    (accepts : w.Accepts raw file input id c) (blocked : ¬ w.library.records.Takes raw) :
    Storing w raw file input (⟨[], .error e⟩, w) := by
  constructor
  case succeeds =>
    intro _ _ _
    constructor
    · intro done
      cases done
    · intro takes
      exact absurd takes blocked
  case stored =>
    intro _ _ _ done
    cases done
  case rejected => exact fun unaccepted => absurd accepts (unaccepted id c)
  case unchanged => exact fun _ _ => rfl

private theorem storing_put {input : ByteArray} {records : DirectoryRecords}
    (accepts : w.Accepts raw file input id c)
    (answer : w.library.records.put id.text c.toText = .ok records) :
    Storing w raw file input (⟨[], .ok ()⟩, w.withLibrary ⟨records⟩) := by
  obtain ⟨base, _⟩ := DirectoryRecords.changesOnly_of_put answer
  obtain ⟨origin, holds⟩ := DirectoryRecords.holdsText_of_put answer
  have takes : w.library.records.Takes raw :=
    accepts.1 ▸ DirectoryRecords.put_succeeds_iff.mp ⟨records, answer⟩
  constructor
  case succeeds => exact fun _ _ _ => ⟨fun _ => takes, fun _ => rfl⟩
  case stored =>
    intro other d given _ integers
    obtain ⟨rfl, rfl⟩ := accepts.unique given
    obtain ⟨_, text, _, read⟩ := given
    obtain ⟨whole, line⟩ := Content.ofText_again read integers
    exact stores_of_holdsText (records_withLibrary base) holds whole line
  case rejected => exact fun unaccepted => absurd accepts (unaccepted id c)
  case unchanged =>
    intro e failed
    cases failed

/-- Whatever a user gives is stored as a document if it is one, and leaves the workspace as it was
otherwise. -/
theorem documents_are_stored_as_read (w : Workspace) (bits : Nat) (input : Input) (raw : String)
    (file : Option Path) :
    Storing w raw file input.bytes (w.perform bits input (.putDocument raw file)).value := by
  cases prepared : w.prepare raw file input.bytes with
  | error e =>
    rw [value_perform_refused prepared]
    exact storing_refused prepared
  | ok both =>
    have accepts : w.Accepts raw file input.bytes both.1 both.2 := prepare_eq_ok.mp prepared
    rw [value_perform_put accepts]
    cases answer : w.library.records.put both.1.text both.2.toText with
    | error e =>
      apply storing_blocked accepts
      rw [← accepts.1, ← DirectoryRecords.put_succeeds_iff]
      rintro ⟨records, done⟩
      cases answer.symm.trans done
    | ok records => exact storing_put accepts answer

/-- A scene with two members of one name and the integers at both ends. -/
def oddScene : String :=
  "\x7b\"n\": 18446744073709551615, \"a\": [-9223372036854775808, 7], \"n\": []\x7d"

/-- The scene as it is read. -/
def oddContent : Content :=
  ⟨.object [("a", .list [.number (.integer (-9223372036854775808)), .number (.integer 7)]),
    ("n", .list [])]⟩

theorem oddScene_is_stored :
    (onDesk recordA ∅ (desk [])).Accepts "a" none oddScene.toUTF8 documentA oddContent ∧
      (onDesk recordA ∅ (desk [])).library.records.Takes "a" ∧
      ((onDesk recordA ∅ (desk [])).perform 0 (.atOnce oddScene.toUTF8) (.putDocument "a" none)
        ).value.2.Stores documentA oddContent := by
  have storing := documents_are_stored_as_read (onDesk recordA ∅ (desk [])) 0
    (.atOnce oddScene.toUTF8) "a" none
  have accepts : (onDesk recordA ∅ (desk [])).Accepts "a" none oddScene.toUTF8 documentA oddContent := by
    refine ⟨rfl, oddScene, ?_, by cbv⟩
    rw [source, decodeText_toUTF8]
    rfl
  have takes : (onDesk recordA ∅ (desk [])).library.records.Takes "a" := by
    refine ⟨["data", "documents"], standsAt_desk, ⟨by decide, by decide⟩, ?_⟩
    have name : DirectoryRecords.fileName "a" = "a.json" := by decide
    have free : (desk []).node? ["data", "documents", "a.json"] = none := rfl
    rw [name]
    intro directory
    cases free.symm.trans directory
  have done := (storing.succeeds _ _ accepts).mpr takes
  exact ⟨accepts, takes, storing.stored _ _ accepts done rfl⟩

end Sketchbook.Workspace
