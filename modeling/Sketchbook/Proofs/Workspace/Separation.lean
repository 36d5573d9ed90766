import Sketchbook.Proofs.Workspace.Alike

/-!
Documents and preferences do not interfere. Unless the configuration says where the preferences are, a
command changes no document and no preference but those that it is asked to change, and it neither writes
nor sees the record of any other document, whatever the characters of an id are
(`documents_and_preferences_are_separate`).
-/
namespace Sketchbook.Workspace

open DirectoryRecords (fileName isName_fileName)

variable {config : Config} {env : Environment} {w : Workspace} {root : Location}

/-- In a workspace the documents and the preferences do not interfere. -/
structure Separate (config : Config) (env : Environment) (root : Location) (w : Workspace) : Prop where
  laid : Laid root w
  /-- The record of a document is an entry in the directory of the documents, whatever its id is. -/
  names : ∀ id : DocumentId, Path.IsName (fileName id.text)
  /-- The path of a record leads nowhere else. -/
  places : ∀ (id : DocumentId) (place : Location),
    w.disk.locate (w.library.records.path id.text) = .ok place → place = recordPlace root id
  distinct : Function.Injective (recordPlace root)
  apart : ∀ id, recordPlace root id ≠ preferencesPlace root
  /-- To open the workspace again changes nothing. -/
  reopened : (step config env w .reopen).2 = w
  /-- A command changes what it is asked to change, and writes no other file. -/
  frame : ∀ (bits : Nat) (input : Input) (c : Command) (output : Output),
    Frame root (w.touches bits c) (w.adjusts c) w (w.perform bits input c output).value.2
  /-- The removal of a document clears which document is current, or leaves it. -/
  cleared : ∀ raw, (w.deleteDocument raw).value.2.preferences.get .currentDocument = none ∨
    (w.deleteDocument raw).value.2.preferences.get .currentDocument =
      w.preferences.get .currentDocument
  /-- A command sees no record of a document that it is not asked for. -/
  sees : ∀ (bits : Nat) (input : Input) (c : Command) (output : Output) (v : Workspace)
    (hidden : Location → Prop), c ≠ .listDocuments → Alike hidden w v → Seen root hidden (w.regards c) →
    (∀ raw file, c = .putDocument raw (some file) → v.disk.readText file = w.disk.readText file) →
    SameAnswer hidden (w.perform bits input c output).value (v.perform bits input c output).value

private theorem cleared_of_removal {raw : String} {report : CommandReport}
    {changed : Workspace} (removal : Removal w raw (report, changed)) :
    changed.preferences.get .currentDocument = none ∨
      changed.preferences.get .currentDocument = w.preferences.get .currentDocument := by
  cases removal with
  | refused => exact Or.inr rfl
  | interrupted _ _ _ _ _ _ _ preferences => exact Or.inr (preferences .currentDocument)
  | done id _ _ _ _ preferences =>
    have set := preferences .currentDocument
    split at set
    · exact Or.inl set
    · exact Or.inr set

private theorem separate_of_laid (stands : Stands config env w) (laid : Laid root w) :
    Separate config env root w where
  laid := laid
  names id := isName_fileName id.text
  places _ _ led := place_of_record laid stands.uses.named led
  distinct := recordPlace_injective root
  apart := recordPlace_ne_preferencesPlace root
  reopened := step_reopen stands
  frame := frame_perform stands.uses.named laid
  cleared raw := by
    have removal := removal_perform stands.uses stands.apart 0 (.atOnce .empty) .endless raw
    rw [value_perform_delete] at removal
    exact cleared_of_removal removal
  sees _ _ _ _ _ _ listing alike seen given :=
    perform_alike alike laid stands.uses.named listing seen given

/-- Unless the configuration says where the preferences are, documents and preferences do not interfere,
whatever commands are carried out and whenever the workspace is opened again. -/
theorem documents_and_preferences_are_separate {disk : Disk}
    (opened : («open» config env disk).1 = .ok w) (default : config.preferencesFile = none) :
    ∃ root, ∀ events, Separate config env root (run config env w events) := by
  obtain ⟨uses, kept⟩ := of_open opened
  obtain ⟨root, laid⟩ := laid_of_open opened default
  refine ⟨root, fun events => ?_⟩
  have keeps : ∀ (w : Workspace) (bits : Nat) (input : Input) (c : Command) (output : Output),
      Stands config env w → Laid root w → Laid root (w.perform bits input c output).value.2 := by
    intro w bits input c output stands laid
    have frame := frame_perform stands.uses.named laid bits input c output
    exact laid.of_changesOnly frame.paths frame.files
  obtain ⟨stands, laid⟩ :=
    holds_run ⟨uses, apart_of_default uses default, kept⟩ laid keeps events
  exact separate_of_laid stands laid

/-! ### An id that looks like a path -/

/-- A document whose id would lead to the file of the preferences if it were a path. -/
def traversal : DocumentId := ⟨"../settings", rfl⟩

/-- The record of such a document is in the directory of the documents all the same. -/
theorem traversal_is_separate :
    («open» (deskConfig none) {} (desk [])).1 = .ok (onDesk ⟨"data/settings.json"⟩ ∅ (desk [])) ∧
      (deskConfig none).preferencesFile = none ∧
      (∀ events, Separate (deskConfig none) {} ["data"]
        (run (deskConfig none) {} (onDesk ⟨"data/settings.json"⟩ ∅ (desk [])) events)) ∧
      recordPlace ["data"] traversal = ["data", "documents", "..%2Fsettings.json"] := by
  have opened := congrArg Prod.fst
    (open_desk none (p := ⟨"data/settings.json"⟩) (by decide) missing_settings)
  obtain ⟨root, separate⟩ := documents_and_preferences_are_separate opened rfl
  have located := (separate []).laid.documents.symm.trans locate_desk
  have beside : root ++ ["documents"] = ["data"] ++ ["documents"] := Except.ok.inj located
  obtain rfl := List.append_cancel_right beside
  exact ⟨opened, rfl, separate, by decide⟩

end Sketchbook.Workspace
