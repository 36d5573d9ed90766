import Mathlib.Data.List.Permutation
import Sketchbook.Proofs.Workspace.Changes

/-!
Runs of a workspace: commands one after the other, with openings between them. As long as the file of the
preferences is no record of a document, what the workspace holds of it is what the file says
(`Stands.kept`), so that to open the workspace again changes nothing (`step_reopen`), and what every
command keeps is kept by a run (`holds_run`).
-/
namespace Sketchbook.Workspace

open DirectoryRecords (fileName)

variable {config : Config} {env : Environment} {w changed : Workspace}
variable {touched : DocumentId → Prop} {made : PreferenceChange → Prop}

/-! ### Events -/

/-- What happens to a workspace. -/
inductive Event where
  /-- A command is carried out, with a random number, an input and an output. -/
  | command (c : Command) (bits : Nat) (input : Input) (output : Output := .endless)
  /-- The workspace is opened again. If that fails it stays as it was. -/
  | reopen

/-- What an event comes to. -/
def step (config : Config) (env : Environment) (w : Workspace) :
    Event → Except CommandError Unit × Workspace
  | .command c bits input output =>
    ((w.perform bits input c output).value.1.result, (w.perform bits input c output).value.2)
  | .reopen =>
    match «open» config env w.disk with
    | (.ok again, _) => (.ok (), again)
    | (.error e, disk) => (.error e, { w with disk })

/-- A workspace after events. -/
def run (config : Config) (env : Environment) (w : Workspace) (events : List Event) : Workspace :=
  events.foldl (fun w event => (step config env w event).2) w

/-! ### What changes keep -/

/-- A workspace is on the same paths as another. -/
structure SamePaths (w changed : Workspace) : Prop where
  documents : changed.documentsDir = w.documentsDir
  preferences : changed.preferencesFile = w.preferencesFile
  window : changed.window = w.window
  workDir : changed.disk.workDir = w.disk.workDir

theorem SamePaths.uses (same : SamePaths w changed) (uses : Uses config env w) :
    Uses config env changed :=
  ⟨by rw [same.documents]; exact uses.documents, by rw [same.preferences]; exact uses.preferences,
    by rw [same.window]; exact uses.window⟩

theorem SamePaths.apart (same : SamePaths w changed) (apart : w.Apart) : changed.Apart := by
  unfold Apart
  rw [same.documents, same.preferences, same.workDir]
  exact apart

theorem SamePaths.named (same : SamePaths w changed) (named : w.documentsDir.text.isEmpty = false) :
    changed.documentsDir.text.isEmpty = false := by
  rw [same.documents]
  exact named

/-- A record that is removed leaves the library in its directory and touches no other file. -/
theorem changesOnly_of_answer {s records : DirectoryRecords} {key : String}
    (named : s.base.text.isEmpty = false) (there : s.contains key = true)
    (answer : s.delete key = .ok records) :
    records.base = s.base ∧ records.contains key = false ∧
      s.disk.ChangesOnly records.disk (s.places (· = key)) := by
  obtain ⟨left, deleted, base, gone, only⟩ := DirectoryRecords.changesOnly_of_delete named there
  obtain rfl := Except.ok.inj (answer.symm.trans deleted)
  exact ⟨base, gone, only⟩

theorem samePaths_of_becomes (named : w.documentsDir.text.isEmpty = false)
    (becomes : Becomes touched made w changed) : SamePaths w changed := by
  induction becomes with
  | same => exact ⟨rfl, rfl, rfl, rfl⟩
  | put before own answer ih =>
    obtain ⟨_, only⟩ := DirectoryRecords.changesOnly_of_put answer
    exact ⟨ih.documents, ih.preferences, ih.window, only.workDir.trans ih.workDir⟩
  | delete before own there answer ih =>
    obtain ⟨_, _, only⟩ := changesOnly_of_answer (ih.named named) there answer
    exact ⟨ih.documents, ih.preferences, ih.window, only.workDir.trans ih.workDir⟩
  | @prefer middle c before own ih =>
    have adds := FilePreferences.adds_perform middle.preferences.store c
    exact ⟨ih.documents, ih.preferences, ih.window, adds.workDir.trans ih.workDir⟩

/-- Something is where the documents are, and what is held of the preferences is what their file says. -/
structure Kept (w : Workspace) : Prop where
  there : w.disk.has w.documentsDir = true
  inStep : w.preferences.store.InStep

/-- No record of a document is where the preferences are. -/
theorem Apart.untouched (apart : w.Apart) {place : Location}
    (led : w.disk.locate w.preferencesFile = .ok place) {id : DocumentId} :
    ¬ w.library.records.places (· = id.text) place := by
  rintro ⟨origin, key, located, rfl, rfl⟩
  rw [Disk.target_of_locate (p := w.documentsDir) located] at led
  exact apart id (Disk.target_of_locate led).symm

/-- A change of one record leaves the preferences in step with their file. -/
theorem inStep_of_record {records : DirectoryRecords} {id : DocumentId} (apart : w.Apart)
    (only : w.disk.ChangesOnly records.disk (w.library.records.places (· = id.text)))
    (inStep : w.preferences.store.InStep) :
    (w.withLibrary ⟨records⟩).preferences.store.InStep :=
  inStep.of_disk (only.readText_eq_ok_iff fun _ led => apart.untouched led)

theorem inStep_of_becomes (named : w.documentsDir.text.isEmpty = false) (apart : w.Apart)
    (becomes : Becomes touched made w changed) (inStep : w.preferences.store.InStep) :
    changed.preferences.store.InStep := by
  induction becomes with
  | same => exact inStep
  | put before own answer ih =>
    obtain ⟨_, only⟩ := DirectoryRecords.changesOnly_of_put answer
    exact inStep_of_record ((samePaths_of_becomes named before).apart apart) only ih
  | delete before own there answer ih =>
    have paths := samePaths_of_becomes named before
    obtain ⟨_, _, only⟩ := changesOnly_of_answer (paths.named named) there answer
    exact inStep_of_record (paths.apart apart) only ih
  | @prefer middle c before own ih =>
    rw [store_carryOut]
    exact FilePreferences.inStep_perform ih c

private theorem there_of_record {records : DirectoryRecords} {id : DocumentId}
    (only : w.disk.ChangesOnly records.disk (w.library.records.places (· = id.text)))
    (there : w.disk.has w.documentsDir = true) : records.disk.has w.documentsDir = true :=
  only.has_of_has (fun _ led => DirectoryRecords.not_places_base (s := w.library.records) led) there

theorem there_of_becomes (named : w.documentsDir.text.isEmpty = false)
    (becomes : Becomes touched made w changed) (there : w.disk.has w.documentsDir = true) :
    changed.disk.has changed.documentsDir = true := by
  induction becomes with
  | same => exact there
  | @put middle _ _ _ before own answer ih =>
    obtain ⟨_, only⟩ := DirectoryRecords.changesOnly_of_put answer
    exact there_of_record (w := middle) only ih
  | @delete middle _ _ before own there answer ih =>
    obtain ⟨_, _, only⟩ :=
      changesOnly_of_answer ((samePaths_of_becomes named before).named named) there answer
    exact there_of_record (w := middle) only ih
  | @prefer middle c before own ih =>
    exact (FilePreferences.adds_perform middle.preferences.store c).has ih

/-! ### Openings -/

/-- A workspace of a configuration whose preferences are no record of a document. -/
structure Stands (config : Config) (env : Environment) (w : Workspace) : Prop where
  uses : Uses config env w
  apart : w.Apart
  kept : w.Kept

theorem stands_of_becomes (becomes : Becomes touched made w changed) (stands : Stands config env w) :
    Stands config env changed := by
  have named := stands.uses.named
  have paths := samePaths_of_becomes named becomes
  exact ⟨paths.uses stands.uses, paths.apart stands.apart,
    there_of_becomes named becomes stands.kept.there,
    inStep_of_becomes named stands.apart becomes stands.kept.inStep⟩

private theorem establish_of_has {disk : Disk} {base : Path} (there : disk.has base = true) :
    DirectoryRecords.establish disk base = (.ok (), disk) := by
  rw [DirectoryRecords.establish, if_pos there]

private theorem has_of_establish {disk left : Disk} {base : Path} (named : base.text.isEmpty = false)
    (done : DirectoryRecords.establish disk base = (.ok (), left)) : left.has base = true := by
  unfold DirectoryRecords.establish at done
  split at done
  · next there =>
    obtain ⟨_, rfl⟩ := Prod.mk.inj done
    exact there
  · cases made : disk.createDirectories base with
    | mk answer grown =>
      rw [made] at done
      cases answer with
      | error e => cases done
      | ok _ =>
        obtain ⟨_, rfl⟩ := Prod.mk.inj done
        obtain ⟨place, led, there⟩ := Disk.isDirectory_iff.mp (Disk.isDirectory_of_made named made)
        rw [Disk.has, Disk.lookup_directory led there]
        rfl

/-- A workspace that has been opened is where its configuration says, and its preferences are those that
were read. -/
theorem load_of_open {disk : Disk} (opened : («open» config env disk).1 = .ok w) :
    Uses config env w ∧ w.disk.has w.documentsDir = true ∧
      FilePreferences.load w.disk w.preferencesFile = .ok w.preferences.store := by
  unfold «open» at opened
  split at opened
  · cases opened
  · cases opened
  · next documentsDir preferencesFile documents preferences =>
    split at opened
    · cases opened
    · next left done =>
      split at opened
      · cases opened
      · next fresh loaded =>
        obtain rfl := Except.ok.inj opened
        let w : Workspace := ⟨config.window, documentsDir, preferencesFile, fresh.items, left⟩
        have uses : Uses config env w := ⟨documents, preferences, rfl⟩
        refine ⟨uses, has_of_establish uses.named done, ?_⟩
        obtain ⟨path, same, _⟩ := FilePreferences.inStep_of_load loaded
        cases fresh
        cases path
        cases same
        exact loaded

/-- A workspace that has been opened holds what the file says. -/
theorem of_open {disk : Disk} (opened : («open» config env disk).1 = .ok w) :
    Uses config env w ∧ w.Kept := by
  obtain ⟨uses, there, loaded⟩ := load_of_open opened
  exact ⟨uses, there, (FilePreferences.inStep_of_load loaded).2.2⟩

/-- Where there is no file of preferences, none is set. -/
theorem unset_of_missing (kept : w.Kept)
    (missing : w.disk.readText w.preferencesFile = .error .notFound) (key : PreferenceKey) :
    w.preferences.get key = none := by
  rcases kept.inStep with ⟨text, read, _⟩ | ⟨_, empty⟩
  · cases missing.symm.trans read
  · have items : w.items = ∅ := empty
    have asked : w.preferences.get key = w.items.get? key.item := rfl
    rw [asked, items]
    rfl

/-- A workspace is opened if there is something where its documents are and its preferences can be
read. -/
theorem open_of_load {documentsDir : Path} {disk : Disk} {s : FilePreferences}
    (documents : config.documentsDir env = some documentsDir)
    (preferences : config.preferencesPath env = some s.path) (there : disk.has documentsDir = true)
    (loaded : FilePreferences.load disk s.path = .ok s) :
    «open» config env disk = (.ok ⟨config.window, documentsDir, s.path, s.items, disk⟩, disk) := by
  unfold «open»
  rw [documents, preferences]
  simp only [establish_of_has there, loaded]

private theorem step_reopen_of_load (stands : Stands config env w)
    (loaded : FilePreferences.load w.disk w.preferencesFile = .ok w.preferences.store) :
    step config env w .reopen = (.ok (), w) := by
  unfold step
  rw [open_of_load stands.uses.documents (s := w.preferences.store) stands.uses.preferences
    stands.kept.there loaded]
  simp only [stands.uses.window]
  rfl

/-- To open a workspace again changes nothing. -/
theorem step_reopen (stands : Stands config env w) : (step config env w .reopen).2 = w := by
  cases loaded : FilePreferences.load w.disk w.preferencesFile with
  | error e =>
    unfold step «open»
    rw [stands.uses.documents, stands.uses.preferences]
    simp only [establish_of_has stands.kept.there, loaded]
  | ok fresh =>
    obtain rfl : fresh = w.preferences.store :=
      FilePreferences.load_of_inStep stands.kept.inStep loaded
    rw [step_reopen_of_load stands loaded]

/-- A workspace whose file of preferences can be read can be opened again. -/
theorem step_reopen_of_read {text : String} (stands : Stands config env w)
    (read : w.disk.readText w.preferencesFile = .ok text) :
    step config env w .reopen = (.ok (), w) := by
  rcases stands.kept.inStep with ⟨held, own, parsed⟩ | ⟨unread, _⟩
  · apply step_reopen_of_load stands
    unfold FilePreferences.load
    simp only [preferences] at own
    rw [own]
    simp only [parsed]
    rfl
  · exact absurd read (unread text)

/-! ### Runs -/

/-- An event changes what its command may change. -/
theorem stands_step (stands : Stands config env w) (event : Event) :
    Stands config env (step config env w event).2 := by
  cases event with
  | command c bits input output =>
    exact stands_of_becomes (becomes_perform w bits input c output) stands
  | reopen =>
    rw [step_reopen stands]
    exact stands

/-- What every command keeps is kept by a run. -/
theorem holds_run {Holds : Workspace → Prop} (stands : Stands config env w) (holds : Holds w)
    (kept : ∀ (w : Workspace) (bits : Nat) (input : Input) (c : Command) (output : Output),
      Stands config env w → Holds w → Holds (w.perform bits input c output).value.2)
    (events : List Event) :
    Stands config env (run config env w events) ∧ Holds (run config env w events) := by
  induction events generalizing w with
  | nil => exact ⟨stands, holds⟩
  | cons event rest ih =>
    have next : Holds (step config env w event).2 := by
      cases event with
      | command c bits input output => exact kept w bits input c output stands holds
      | reopen =>
        rw [step_reopen stands]
        exact holds
    exact ih (stands_step stands event) next

/-! ### A desk -/

/-- A disk with a directory for documents, and with what else is given. -/
def desk (more : List (Location × Node)) : Disk :=
  ⟨.ofList ((["data"], .directory) :: (["data", "documents"], .directory) :: more), []⟩

/-- The configuration of a workspace on a desk. -/
def deskConfig (preferencesFile : Option Path) : Config where
  dataDir := some ⟨"data"⟩
  preferencesFile := preferencesFile

/-- A workspace on a desk. -/
def onDesk (preferencesFile : Path) (items : SortedMap String String) (disk : Disk) : Workspace where
  window := 200
  documentsDir := ⟨"data/documents"⟩
  preferencesFile := preferencesFile
  items := items
  disk := disk

/-- A workspace without documents and preferences. -/
def bare : Workspace := onDesk ⟨"data/settings.json"⟩ ∅ (desk [])

theorem locate_desk : (desk []).locate ⟨"data/documents"⟩ = .ok ["data", "documents"] :=
  Disk.locate_eq_ok.mpr ⟨rfl, by decide, by decide, rfl⟩

theorem standsAt_desk :
    DirectoryRecords.StandsAt ⟨⟨"data/documents"⟩, desk []⟩ ["data", "documents"] :=
  ⟨locate_desk, rfl⟩

/-- A workspace is opened on a desk that has no file of preferences. -/
theorem open_desk (preferencesFile : Option Path) {p : Path}
    (given : (deskConfig preferencesFile).preferencesPath {} = some p)
    (missing : (desk []).readText p = .error .notFound) :
    «open» (deskConfig preferencesFile) {} (desk []) = (.ok (onDesk p ∅ (desk [])), desk []) := by
  have documents : (deskConfig none).documentsDir {} = some ⟨"data/documents"⟩ := by decide
  have there : (desk []).has ⟨"data/documents"⟩ = true := by
    rw [Disk.has, Disk.lookup_directory standsAt_desk.located standsAt_desk.there]
    rfl
  exact open_of_load documents (s := ⟨p, ∅, desk []⟩) given there
    (FilePreferences.load_of_absent missing)

theorem locate_settings :
    (desk []).locate ⟨"data/settings.json"⟩ = .ok ["data", "settings.json"] :=
  Disk.locate_eq_ok.mpr ⟨rfl, by decide, by decide, rfl⟩

theorem free_settings : (desk []).node? ["data", "settings.json"] ≠ some .directory := by
  have free : (desk []).node? ["data", "settings.json"] = none := rfl
  simp [free]

theorem missing_settings : (desk []).readText ⟨"data/settings.json"⟩ = .error .notFound := by
  have free : (desk []).node? ["data", "settings.json"] = none := rfl
  simp [Disk.readText, Disk.readBytes, Disk.lookup, locate_settings, free, bind, Except.bind]

/-! ### A record where the preferences are -/

/-- A document. -/
def documentA : DocumentId := ⟨"a", rfl⟩

/-- The record of the document, seen from a desk. -/
def recordA : Path := ⟨"data/documents/a.json"⟩

/-- A desk with a text as the record of the document. -/
def deskWith (text : String) : Disk :=
  { desk [] with
    nodes := (desk []).nodes.insert ["data", "documents", "a.json"] (.file text.toUTF8) }

/-- The document is put, as the input of a command. -/
def putA (text : String) : Event :=
  .command (.putDocument documentA.text none) 0 (.atOnce text.toUTF8)

private theorem locate_recordA : (desk []).locate recordA = .ok ["data", "documents", "a.json"] :=
  Disk.locate_eq_ok.mpr ⟨rfl, by decide, by decide, rfl⟩

private theorem free_recordA :
    (desk []).node? ["data", "documents", "a.json"] ≠ some .directory := by
  have free : (desk []).node? ["data", "documents", "a.json"] = none := rfl
  simp [free]

theorem missing_recordA : (desk []).readText recordA = .error .notFound := by
  have free : (desk []).node? ["data", "documents", "a.json"] = none := rfl
  simp [Disk.readText, Disk.readBytes, Disk.lookup, locate_recordA, free, bind, Except.bind]

theorem standsAt_deskWith (text : String) :
    DirectoryRecords.StandsAt ⟨⟨"data/documents"⟩, deskWith text⟩ ["data", "documents"] :=
  standsAt_desk.of_stay (Disk.directoriesStay_insert _ free_recordA) rfl

theorem node?_deskWith (text : String) :
    (deskWith text).node? ["data", "documents", "a.json"] = some (.file text.toUTF8) := by
  rw [deskWith, Disk.node?_insert, if_neg (by simp)]
  exact if_pos rfl

theorem step_putA {text : String} {content : Content} (read : Content.ofText text = .ok content)
    (same : content.toText = text) :
    step (deskConfig (some recordA)) {} (onDesk recordA ∅ (desk [])) (putA text) =
      (.ok (), onDesk recordA ∅ (deskWith text)) := by
  have fits : DirectoryRecords.Fits ⟨"data/documents"⟩ documentA.text := ⟨by decide, by decide⟩
  have name : fileName documentA.text = "a.json" := by decide
  have answer := @DirectoryRecords.put_file _ _ _ text standsAt_desk fits (name ▸ free_recordA)
  rw [name, ← same] at answer
  have done := value_putDocument (w := onDesk recordA ∅ (desk [])) read answer
  rw [same] at done
  simp only [step, putA, perform, Input.atOnce, Noted.value_bind, done]
  rfl

theorem step_reopenA {text : String} {items : SortedMap String String}
    (parsed : FilePreferences.parse text = .ok items) :
    step (deskConfig (some recordA)) {} (onDesk recordA ∅ (deskWith text)) .reopen =
      (.ok (), onDesk recordA items (deskWith text)) := by
  have written : (desk []).write recordA text.toUTF8 = .ok (deskWith text) :=
    Disk.write_eq_ok.mpr ⟨_, locate_recordA, free_recordA, by decide, rfl⟩
  have loaded : FilePreferences.load (deskWith text) recordA = .ok ⟨recordA, items, deskWith text⟩ := by
    simp [FilePreferences.load, Disk.readText_of_write written, parsed]
  have stands := standsAt_deskWith text
  have there : (deskWith text).has ⟨"data/documents"⟩ = true := by
    rw [Disk.has, Disk.lookup_directory stands.located stands.there]
    rfl
  have documents : (deskConfig (some recordA)).documentsDir {} = some ⟨"data/documents"⟩ := by decide
  have preferences : (deskConfig (some recordA)).preferencesPath {} = some recordA := rfl
  have opened := open_of_load documents (s := ⟨recordA, items, deskWith text⟩) preferences there loaded
  rw [step, onDesk, opened]
  rfl

end Sketchbook.Workspace
