import Sketchbook.Proofs.Store.Texts
import Sketchbook.Proofs.Workspace.Runs

/-!
How the commands end that change a document and a preference, which are two stores. The document comes
first, and the id of a new document is printed last. If the document cannot be changed, nothing changes;
if it is changed but the preferences cannot be written, the change of the document stays; and a new
document whose id cannot be printed stays as the current one (`removals_and_creations`). Every other
document and preference is as it was, as long as the preferences are no record of a document.
-/
namespace Sketchbook.Workspace

open DirectoryRecords (fileName StandsAt)

variable {config : Config} {env : Environment} {w changed : Workspace}

/-! ### Other documents -/

/-- A document has a record if it had one, with the same content. -/
structure SameDocument (w changed : Workspace) (id : DocumentId) : Prop where
  has : changed.library.has id = w.library.has id
  content : w.library.has id = .ok true → changed.library.get id = w.library.get id

theorem SameDocument.trans {middle : Workspace} {id : DocumentId} (first : SameDocument w middle id)
    (second : SameDocument middle changed id) : SameDocument w changed id :=
  ⟨second.has.trans first.has, fun there =>
    (second.content (first.has.trans there)).trans (first.content there)⟩

theorem get_library_congr {id : DocumentId}
    (same : changed.library.records.get id.text = w.library.records.get id.text) :
    changed.library.get id = w.library.get id := by
  simp only [Library.get, Records.get, same]

/-- A change of one record leaves the directory where it is and every other document as it was. -/
theorem sameDocument_of_record {records : DirectoryRecords} {id other : DocumentId}
    {origin : Location} (base : records.base = w.documentsDir)
    (only : w.disk.ChangesOnly records.disk (w.library.records.places (· = id.text)))
    (stands : w.library.records.StandsAt origin) (ne : other ≠ id) :
    SameDocument w (w.withLibrary ⟨records⟩) other := by
  have apart : ¬ other.text = id.text := fun same => ne (by cases other; cases id; cases same; rfl)
  have found : records.disk.lookup (records.path other.text) =
      w.library.records.disk.lookup (w.library.records.path other.text) :=
    DirectoryRecords.lookup_of_changesOnly base only stands.located
      (DirectoryRecords.not_places_base stands.located)
      (DirectoryRecords.not_places_of_ne stands.located apart)
  rw [← records_withLibrary base] at found
  exact ⟨congrArg Except.ok (DirectoryRecords.contains_of_lookup found),
    fun _ => get_library_congr (DirectoryRecords.get_of_lookup rfl found)⟩

/-- The directory of the documents is where it was after a change of the preferences, and every document
is as it was. -/
theorem sameDocument_carryOut {origin : Location} (apart : w.Apart)
    (stands : w.library.records.StandsAt origin) (c : PreferenceChange) (id : DocumentId) :
    SameDocument w (w.carryOut c).2 id := by
  have adds := FilePreferences.adds_perform w.preferences.store c
  have free : ¬ (c.perform w.preferences.store).2.disk.locate w.preferencesFile =
      .ok (origin ++ [fileName id.text]) := by
    intro led
    have place := Disk.target_of_locate led
    rw [adds.workDir, Disk.target_of_locate stands.located] at place
    exact apart id place.symm
  refine ⟨congrArg Except.ok ?_, fun there => get_library_congr ?_⟩
  · exact DirectoryRecords.contains_of_adds rfl adds stands free
  · exact DirectoryRecords.get_of_adds rfl adds stands free (Except.ok.inj there)

/-- What a change of one record leaves, and what a change of the preferences leaves after it. -/
private structure Split (w : Workspace) (records : DirectoryRecords) (id : DocumentId) : Prop where
  others : ∀ other, other ≠ id → SameDocument w (w.withLibrary ⟨records⟩) other
  inStep : w.preferences.store.InStep → (w.withLibrary ⟨records⟩).preferences.store.InStep
  after : ∀ c other, SameDocument (w.withLibrary ⟨records⟩) ((w.withLibrary ⟨records⟩).carryOut c).2 other

private theorem split_of_record {records : DirectoryRecords} {id : DocumentId} {origin : Location}
    (apart : w.Apart) (base : records.base = w.documentsDir)
    (only : w.disk.ChangesOnly records.disk (w.library.records.places (· = id.text)))
    (stands : w.library.records.StandsAt origin) : Split w records id where
  others other ne := sameDocument_of_record base only stands ne
  inStep := inStep_of_record apart only
  after c other := by
    have paths : SamePaths w (w.withLibrary ⟨records⟩) := ⟨rfl, rfl, rfl, only.workDir⟩
    exact sameDocument_carryOut (paths.apart apart)
      (DirectoryRecords.standsAt_of_changesOnly (s := w.library.records) rfl only stands) c other

private theorem inStep_carryOut (c : PreferenceChange) (inStep : w.preferences.store.InStep) :
    (w.carryOut c).2.preferences.store.InStep := by
  rw [store_carryOut]
  exact FilePreferences.inStep_perform inStep c

/-! ### Removal -/

/-- How the removal of a document ends. -/
inductive Removal (w : Workspace) (raw : String) : CommandReport × Workspace → Prop where
  /-- No such document is stored, and nothing changes. -/
  | refused {e : CommandError}
      (unstored : ∀ id : DocumentId, id.text = raw → w.library.has id = .ok false) :
      Removal w raw (⟨[], .error e⟩, w)
  /-- The record of the current document is removed, but the preferences cannot be written. -/
  | interrupted {e : StoreError} {changed : Workspace} (fault : e.isFault = true)
      (unwritable : changed.disk.Unwritable w.preferencesFile)
      (id : DocumentId) (named : id.text = raw)
      (current : w.preferences.currentDocument.value = some id)
      (gone : w.library.has id = .ok true ∧ changed.library.has id = .ok false)
      (others : ∀ other, other ≠ id → SameDocument w changed other)
      (preferences : ∀ key, changed.preferences.get key = w.preferences.get key)
      (inStep : w.preferences.store.InStep → changed.preferences.store.InStep) :
      Removal w raw (⟨[], .error (.store e)⟩, changed)
  /-- The document is removed, and it is not the current one any more. -/
  | done {changed : Workspace} (id : DocumentId) (named : id.text = raw)
      (gone : w.library.has id = .ok true ∧ changed.library.has id = .ok false)
      (left : changed.preferences.currentDocument.value ≠ some id)
      (others : ∀ other, other ≠ id → SameDocument w changed other)
      (preferences : ∀ key, changed.preferences.get key =
        if key = .currentDocument ∧ w.preferences.currentDocument.value = some id then none
        else w.preferences.get key)
      (inStep : w.preferences.store.InStep → changed.preferences.store.InStep) :
      Removal w raw (⟨[], .ok ()⟩, changed)

/-- Which document is current depends on the preference alone. -/
theorem currentDocument_congr
    (same : changed.preferences.get .currentDocument = w.preferences.get .currentDocument) :
    changed.preferences.currentDocument = w.preferences.currentDocument := by
  unfold Preferences.currentDocument
  rw [same]

theorem currentDocument_of_none (unset : w.preferences.get .currentDocument = none) :
    w.preferences.currentDocument.value = none := by
  unfold Preferences.currentDocument
  rw [unset]
  rfl

theorem currentDocument_of_some {id : DocumentId}
    (set : w.preferences.get .currentDocument = some id.text) :
    w.preferences.currentDocument.value = some id :=
  Preferences.currentDocument_eq_some.mpr set

variable {records : DirectoryRecords} {id : DocumentId} {bits : Nat} {input : Input} {output : Output}

/-- The current document is removed, and then no document is current if the preferences can be
written. -/
private theorem removal_of_current (split : Split w records id)
    (there : w.library.has id = .ok true)
    (gone : (w.withLibrary ⟨records⟩).library.has id = .ok false)
    (current : w.preferences.currentDocument.value = some id) :
    Removal w id.text
      (⟨[], ((w.withLibrary ⟨records⟩).carryOut (.remove PreferenceKey.currentDocument.item)).1⟩,
        ((w.withLibrary ⟨records⟩).carryOut (.remove PreferenceKey.currentDocument.item)).2) := by
  let c : PreferenceChange := .remove PreferenceKey.currentDocument.item
  have after := split.after c
  have away := And.intro there ((after id).has.trans gone)
  have others (other : DocumentId) (ne : other ≠ id) := (split.others other ne).trans (after other)
  have inStep (held : w.preferences.store.InStep) := inStep_carryOut c (split.inStep held)
  obtain ⟨done, made⟩ | ⟨⟨e, fault, failed⟩, back, unwritable⟩ :=
    (w.withLibrary ⟨records⟩).carryOut_cases c
  · have cleared (key : PreferenceKey) := get_of_removed (w := w) made key
    rw [done]
    refine .done id rfl away ?_ others (fun key => ?_) inStep
    · rw [currentDocument_of_none (cleared .currentDocument)]
      simp
    · rw [cleared key]
      simp [current]
  · rw [failed]
    exact .interrupted fault unwritable id rfl current away others (fun key => get_of_items back) inStep

/-- A document that is stored can be removed. -/
private theorem removal_of_contains (uses : Uses config env w) (apart : w.Apart)
    (there : w.library.records.contains id.text = true) :
    Removal w id.text
      (⟨[], (w.deleteDocument id.text).value.1⟩, (w.deleteDocument id.text).value.2) := by
  obtain ⟨records, answer, base, gone, only⟩ :=
    DirectoryRecords.changesOnly_of_delete uses.named there
  obtain ⟨origin, stands⟩ := DirectoryRecords.standsAt_of_contains uses.named there
  have split := split_of_record apart base only stands
  have had : w.library.has id = .ok true := congrArg Except.ok there
  have removed : (w.withLibrary ⟨records⟩).library.has id = .ok false :=
    (has_withLibrary base id).trans (congrArg Except.ok gone)
  rw [value_deleteDocument there answer]
  by_cases current : w.preferences.currentDocument.value = some id
  · rw [if_pos current]
    exact removal_of_current split had removed current
  · rw [if_neg current]
    refine .done id rfl ⟨had, removed⟩ current split.others (fun key => ?_) split.inStep
    rw [if_neg fun both => current both.2]
    rfl

/-- To remove a document prints nothing. -/
theorem value_perform_delete (w : Workspace) (bits : Nat) (input : Input) (output : Output)
    (raw : String) : (w.perform bits input (.deleteDocument raw) output).value =
      (⟨[], (w.deleteDocument raw).value.1⟩, (w.deleteDocument raw).value.2) := by
  rw [← CommandReport.ofExcept_silent output]
  rfl

theorem removal_perform (uses : Uses config env w) (apart : w.Apart) (bits : Nat) (input : Input)
    (output : Output) (raw : String) :
    Removal w raw (w.perform bits input (.deleteDocument raw) output).value := by
  rw [value_perform_delete]
  by_cases stored : ∃ id : DocumentId, id.text = raw ∧ w.library.records.contains id.text = true
  · obtain ⟨id, rfl, there⟩ := stored
    exact removal_of_contains uses apart there
  · obtain ⟨e, refused⟩ | ⟨id, records, named, there, _⟩ := deleteDocument_cases w raw
    · rw [refused]
      refine .refused fun id named => congrArg Except.ok ?_
      exact Bool.eq_false_iff.mpr fun there => stored ⟨id, named, there⟩
    · exact absurd ⟨id, named, there⟩ stored

/-! ### Creation -/

/-- A document is stored with the empty scene and is the current one. All else is as it was. -/
structure Created (w : Workspace) (id : DocumentId) (changed : Workspace) : Prop where
  stored : changed.library.has id = .ok true ∧ changed.library.get id = .ok .emptyScene
  current : changed.preferences.currentDocument.value = some id
  others : ∀ other, other ≠ id → SameDocument w changed other
  preferences : ∀ key, key ≠ .currentDocument →
    changed.preferences.get key = w.preferences.get key
  inStep : w.preferences.store.InStep → changed.preferences.store.InStep

/-- How the creation of a document ends. -/
inductive Creation (w : Workspace) (id : DocumentId) (output : Output) :
    CommandReport × Workspace → Prop where
  /-- The document cannot be stored, and nothing changes. -/
  | refused {e : CommandError} (blocked : ¬ w.library.records.Takes id.text) :
      Creation w id output (⟨[], .error e⟩, w)
  /-- The document is stored with the empty scene, but the preferences cannot be written. -/
  | interrupted {e : StoreError} {changed : Workspace} (fault : e.isFault = true)
      (unwritable : changed.disk.Unwritable w.preferencesFile)
      (stored : changed.library.has id = .ok true ∧ changed.library.get id = .ok .emptyScene)
      (others : ∀ other, other ≠ id → SameDocument w changed other)
      (preferences : ∀ key, changed.preferences.get key = w.preferences.get key)
      (inStep : w.preferences.store.InStep → changed.preferences.store.InStep) :
      Creation w id output (⟨[], .error (.store e)⟩, changed)
  /-- The document is created, but its id cannot be printed. -/
  | untold {e : OutputError} {changed : Workspace} (unprinted : output.refusal? = some e)
      (created : Created w id changed) :
      Creation w id output (⟨[], .error (.cannotPrint e)⟩, changed)
  /-- The document is created, and its id is printed. -/
  | done {changed : Workspace} (taken : output.refusal? = none) (created : Created w id changed) :
      Creation w id output (⟨[id.text], .ok ()⟩, changed)

private theorem ofText_emptyScene : Content.ofText Content.emptyScene.toText = .ok .emptyScene := by
  cbv

/-- What is printed for a new document is its id, if that can be printed. -/
theorem value_perform_new (w : Workspace) (bits : Nat) (input : Input) (output : Output)
    (name : String) :
    (w.perform bits input (.newDocument name) output).value =
      (.ofExcept output (fun d => [d.id.text]) (w.newDocument bits name).value.1,
        (w.newDocument bits name).value.2) := rfl

private theorem creation_of_created (name : String) (created : Created w (.generate bits) changed) :
    Creation w (.generate bits) output
      (.ofLines output [(Descriptor.named bits name).id.text], changed) := by
  rw [CommandReport.ofLines]
  cases refusal : output.refusal? with
  | some e =>
    rw [Output.print_line_of_refused refusal]
    exact .untold refusal created
  | none =>
    rw [Output.print_line_of_taken refusal]
    exact .done refusal created

/-- A document the record of which could be put is the current one if the preferences can be written. -/
private theorem creation_of_put (apart : w.Apart) (name : String)
    (answer : w.library.records.put (DocumentId.generate bits).text Content.emptyScene.toText =
      .ok records) :
    Creation w (.generate bits) output (w.perform bits input (.newDocument name) output).value := by
  obtain ⟨base, only⟩ := DirectoryRecords.changesOnly_of_put answer
  obtain ⟨origin, stands, _⟩ := DirectoryRecords.put_eq_ok.mp answer
  have split := split_of_record apart base only stands
  have there : (w.withLibrary ⟨records⟩).library.has (.generate bits) = .ok true :=
    (has_withLibrary base _).trans (congrArg Except.ok (DirectoryRecords.contains_of_put answer))
  have content : (w.withLibrary ⟨records⟩).library.get (.generate bits) = .ok .emptyScene := by
    have read : Records.get (w.withLibrary ⟨records⟩).library.records
        (DocumentId.generate bits).text = .ok (some Content.emptyScene.toText) := by
      rw [records_withLibrary base]
      exact KeepsTexts.get_of_put answer
    simp only [Library.get, read, bind, Except.bind, ofText_emptyScene]
  let c : PreferenceChange :=
    .set PreferenceKey.currentDocument.item (DocumentId.generate bits).text
  have after := split.after c
  have stored := And.intro ((after (.generate bits)).has.trans there)
    (((after (.generate bits)).content there).trans content)
  have others (other : DocumentId) (ne : other ≠ .generate bits) :=
    (split.others other ne).trans (after other)
  have inStep (held : w.preferences.store.InStep) := inStep_carryOut c (split.inStep held)
  rw [value_perform_new, value_newDocument answer]
  obtain ⟨done, made⟩ | ⟨⟨e, fault, failed⟩, back, unwritable⟩ :=
    (w.withLibrary ⟨records⟩).carryOut_cases c
  · have set (key : PreferenceKey) := get_of_set (w := w) made key
    rw [done]
    refine creation_of_created name ⟨stored, currentDocument_of_some (set .currentDocument), others, ?_,
      inStep⟩
    intro key other
    rw [set key, if_neg other]
  · rw [failed]
    exact .interrupted fault unwritable stored others (fun key => get_of_items back) inStep

theorem creation_perform (apart : w.Apart) (bits : Nat) (input : Input) (output : Output)
    (name : String) :
    Creation w (.generate bits) output (w.perform bits input (.newDocument name) output).value := by
  cases answer :
      w.library.records.put (DocumentId.generate bits).text Content.emptyScene.toText with
  | error e =>
    rw [value_perform_new, value_newDocument_of_error answer]
    refine .refused fun takes => ?_
    obtain ⟨records, done⟩ := DirectoryRecords.put_succeeds_iff.mpr takes
    cases answer.symm.trans done
  | ok records => exact creation_of_put apart name answer

/-! ### Documents on a desk -/

section Desk

variable {p : Path} {items : SortedMap String String} {disk : Disk}

/-- A document is on a desk if there is a file with the name of its record. -/
private theorem contains_onDesk {content : ByteArray}
    (stands : StandsAt ⟨⟨"data/documents"⟩, disk⟩ ["data", "documents"])
    (present : disk.node? ["data", "documents", "a.json"] = some (.file content)) :
    (onDesk p items disk).library.records.contains documentA.text = true := by
  have fits : DirectoryRecords.Fits ⟨"data/documents"⟩ documentA.text := ⟨by decide, by decide⟩
  have name : fileName documentA.text = "a.json" := by decide
  exact DirectoryRecords.contains_file stands fits (name ▸ present)

/-- A new document is not on a desk without a file of its name, and its record can be put there. -/
private theorem put_onDesk (stands : StandsAt ⟨⟨"data/documents"⟩, disk⟩ ["data", "documents"])
    (free : disk.node? (["data", "documents"] ++ [fileName (DocumentId.generate 0).text]) = none)
    (text : String) :
    (onDesk p items disk).library.has (.generate 0) = .ok false ∧
      ∃ records, (onDesk p items disk).library.records.put (DocumentId.generate 0).text text =
        .ok records := by
  have fits : DirectoryRecords.Fits ⟨"data/documents"⟩ (DocumentId.generate 0).text :=
    ⟨by decide, by decide⟩
  have file : disk.node? (["data", "documents"] ++ [fileName (DocumentId.generate 0).text]) ≠
      some .directory := by
    rw [free]
    simp
  exact ⟨congrArg Except.ok (DirectoryRecords.contains_absent stands fits free), _,
    DirectoryRecords.put_file stands fits file⟩

end Desk

theorem put_bare :
    bare.library.has (.generate 0) = .ok false ∧
      ∃ records, bare.library.records.put (DocumentId.generate 0).text Content.emptyScene.toText =
        .ok records :=
  put_onDesk standsAt_desk (Option.isNone_iff_eq_none.mp (by decide)) _

/-! ### Interruptions -/

/-- A change that has to be written is refused while a directory stands where the preferences are. -/
private theorem carryOut_blocked {place : Location} {c : PreferenceChange}
    (led : w.disk.locate w.preferencesFile = .ok place)
    (blocked : w.disk.node? place = some .directory)
    (writes : w.preferences.store.writes c = true) :
    (w.carryOut c).1 = .error (.store (.cannotWrite w.preferencesFile .isDirectory)) := by
  have directory : w.preferences.store.disk.isDirectory w.preferences.store.path = true :=
    Disk.isDirectory_iff.mpr ⟨place, led, blocked⟩
  have result := FilePreferences.result_perform (s := w.preferences.store) led c
  rw [writes, directory, Bool.true_or, Bool.and_self, if_pos rfl] at result
  rw [carryOut, result]
  rfl

/-- A desk with a document, and with a directory where the preferences are. -/
def blockedDesk : Disk :=
  desk [(["data", "documents", "a.json"], .file "[1]".toUTF8), (["data", "settings.json"], .directory)]

/-- A workspace whose current document is there. -/
def blocked : Workspace :=
  onDesk ⟨"data/settings.json"⟩ (.ofList [(PreferenceKey.currentDocument.item, documentA.text)])
    blockedDesk

private theorem uses_blocked : Uses (deskConfig none) {} blocked := ⟨by decide, by decide, rfl⟩

private theorem apart_blocked : blocked.Apart := apart_of_default uses_blocked rfl

private theorem standsAt_blocked : blocked.library.records.StandsAt ["data", "documents"] :=
  ⟨Disk.locate_eq_ok.mpr ⟨rfl, by decide, by decide, rfl⟩, rfl⟩

private theorem locate_blocked :
    blockedDesk.locate ⟨"data/settings.json"⟩ = .ok ["data", "settings.json"] :=
  Disk.locate_eq_ok.mpr ⟨rfl, by decide, by decide, rfl⟩

private theorem current_blocked : blocked.preferences.currentDocument.value = some documentA :=
  currentDocument_of_some (by decide)

/-- The preferences cannot be written after a change of one record. -/
private theorem carryOut_blocked_record {records : DirectoryRecords} {id : DocumentId}
    {c : PreferenceChange}
    (only : blocked.disk.ChangesOnly records.disk (blocked.library.records.places (· = id.text)))
    (writes : blocked.preferences.store.writes c = true) :
    ((blocked.withLibrary ⟨records⟩).carryOut c).1 =
      .error (.store (.cannotWrite ⟨"data/settings.json"⟩ .isDirectory)) :=
  carryOut_blocked (w := blocked.withLibrary ⟨records⟩) (only.locate_iff.mpr locate_blocked)
    ((only.directories _).mpr rfl) writes

/-- A workspace whose preferences are the record of its current document. -/
def overlaid : Workspace :=
  onDesk recordA (.ofList [(PreferenceKey.currentDocument.item, documentA.text)]) (deskWith "[1]")

/-- Where the preferences are the record of the current document, that record is written again as the
document is removed. -/
private theorem removal_of_preferences {id : DocumentId}
    (same : w.library.records.path id.text = w.preferencesFile)
    (named : w.documentsDir.text.isEmpty = false) (there : w.library.records.contains id.text = true)
    (current : w.preferences.currentDocument.value = some id)
    (held : w.items.contains PreferenceKey.currentDocument.item = true) :
    (w.deleteDocument id.text).value.1 = .ok () ∧
      (w.deleteDocument id.text).value.2.library.has id = .ok true := by
  obtain ⟨origin, stands⟩ := DirectoryRecords.standsAt_of_contains named there
  obtain ⟨fits, content, present⟩ := (DirectoryRecords.contains_iff stands).mp there
  obtain ⟨records, answer, base, _, only⟩ := DirectoryRecords.changesOnly_of_delete named there
  have value := value_deleteDocument (w := w) there answer
  rw [if_pos current] at value
  have led : records.disk.locate w.preferencesFile = .ok (origin ++ [fileName id.text]) :=
    same ▸ only.locate_iff.mpr (DirectoryRecords.locate_fits stands fits)
  have slash : w.preferencesFile.endsInSlash = false :=
    same ▸ DirectoryRecords.endsInSlash_path w.library.records id.text
  have free : records.disk.node? (origin ++ [fileName id.text]) ≠ some .directory := by
    intro directory
    exact absurd (present.symm.trans ((only.directories _).mp directory)) (by simp)
  obtain ⟨done, _, text, read⟩ := carryOut_made (w := w.withLibrary ⟨records⟩)
    (c := .remove PreferenceKey.currentDocument.item) led free slash held
  have path : ((w.withLibrary ⟨records⟩).carryOut (.remove PreferenceKey.currentDocument.item)
      ).2.preferencesFile = w.library.records.path id.text := same.symm
  have file := Disk.isFile_of_readText read
  rw [path] at file
  rw [value]
  exact ⟨done, congrArg Except.ok file⟩

/-- The record of the current document is removed, and the preferences cannot be written after it. -/
private theorem removal_blocked :
    (∃ e, (blocked.perform 0 input (.deleteDocument documentA.text)).value.1.result = .error e) ∧
      blocked.library.has documentA = .ok true ∧
      (blocked.perform 0 input (.deleteDocument documentA.text)).value.2.library.has documentA =
        .ok false := by
  have there : blocked.library.records.contains documentA.text = true :=
    contains_onDesk standsAt_blocked rfl
  obtain ⟨records, answer, base, gone, only⟩ :=
    DirectoryRecords.changesOnly_of_delete uses_blocked.named there
  have value := value_deleteDocument (w := blocked) there answer
  rw [if_pos current_blocked] at value
  have failed := carryOut_blocked_record (c := .remove PreferenceKey.currentDocument.item) only
    (by decide)
  have split := split_of_record apart_blocked base only standsAt_blocked
  have removed : (blocked.withLibrary ⟨records⟩).library.has documentA = .ok false :=
    (has_withLibrary base documentA).trans (congrArg Except.ok gone)
  rw [value_perform_delete, value]
  exact ⟨⟨_, failed⟩, congrArg Except.ok there, (split.after _ documentA).has.trans removed⟩

/-- A new document is stored, and the preferences cannot be written after it. -/
private theorem creation_blocked :
    (∃ e, (blocked.perform 0 input (.newDocument "x")).value.1.result = .error e) ∧
      blocked.library.has (.generate 0) = .ok false ∧
      (blocked.perform 0 input (.newDocument "x")).value.2.library.has (.generate 0) = .ok true := by
  obtain ⟨absent, records, answer⟩ : blocked.library.has (.generate 0) = .ok false ∧
      ∃ records, blocked.library.records.put (DocumentId.generate 0).text
        Content.emptyScene.toText = .ok records :=
    put_onDesk standsAt_blocked (Option.isNone_iff_eq_none.mp (by decide)) _
  obtain ⟨base, only⟩ := DirectoryRecords.changesOnly_of_put answer
  have value := value_newDocument (w := blocked) answer "x"
  have failed := carryOut_blocked_record (c := .set PreferenceKey.currentDocument.item
    (DocumentId.generate 0).text) only rfl
  have split := split_of_record apart_blocked base only standsAt_blocked
  have there : (blocked.withLibrary ⟨records⟩).library.has (.generate 0) = .ok true :=
    (has_withLibrary base _).trans (congrArg Except.ok (DirectoryRecords.contains_of_put answer))
  rw [value_perform_new, value, failed]
  exact ⟨⟨_, rfl⟩, absent, (split.after _ (.generate 0)).has.trans there⟩

/-! ### A creation on a desk -/

private theorem uses_bare : Uses (deskConfig none) {} bare := ⟨by decide, by decide, rfl⟩

private theorem apart_bare : bare.Apart := apart_of_default uses_bare rfl

/-- A document is created where neither its record nor the preferences are obstructed. -/
theorem newDocument_succeeds {place : Location}
    (answer : w.library.records.put (DocumentId.generate bits).text Content.emptyScene.toText =
      .ok records)
    (led : w.disk.locate w.preferencesFile = .ok place)
    (file : w.disk.node? place ≠ some .directory) (slash : w.preferencesFile.endsInSlash = false)
    (name : String) :
    ∃ changed text, (w.newDocument bits name).value = (.ok (.named bits name), changed) ∧
      changed.disk.readText changed.preferencesFile = .ok text := by
  obtain ⟨_, only⟩ := DirectoryRecords.changesOnly_of_put answer
  obtain ⟨done, _, text, read⟩ := carryOut_made (w := w.withLibrary ⟨records⟩)
    (c := .set PreferenceKey.currentDocument.item (DocumentId.generate bits).text)
    (only.locate_iff.mpr led) (fun directory => file ((only.directories _).mp directory)) slash rfl
  have value := value_newDocument answer name
  rw [done] at value
  exact ⟨_, text, value, read⟩

/-- A new document is stored and made the current one, but its id cannot be printed. -/
private theorem creation_untold :
    (∃ e, (bare.perform 0 input (.newDocument "x") (.limited 0 .full)).value.1.result = .error e) ∧
      bare.library.has (.generate 0) = .ok false ∧
      (bare.perform 0 input (.newDocument "x") (.limited 0 .full)).value.2.library.has (.generate 0) =
        .ok true ∧
      bare.preferences.get .currentDocument = none ∧
      (bare.perform 0 input (.newDocument "x") (.limited 0 .full)
        ).value.2.preferences.currentDocument.value = some (.generate 0) := by
  obtain ⟨absent, records, answer⟩ := put_bare
  obtain ⟨changed, _, made, _⟩ :=
    newDocument_succeeds answer locate_settings free_settings (by decide) "x"
  have ended : (bare.perform 0 input (.newDocument "x") (.limited 0 .full)).value =
      (⟨[], .error (.cannotPrint .full)⟩, changed) := by
    rw [value_perform_new, made]
    rfl
  have creation : Creation bare (.generate 0) (.limited 0 .full)
      (bare.perform 0 input (.newDocument "x") (.limited 0 .full)).value :=
    creation_perform apart_bare 0 input _ "x"
  rw [ended] at creation
  have created : Created bare (.generate 0) changed := by
    cases creation with
    | refused blocked => exact absurd (DirectoryRecords.put_succeeds_iff.mp ⟨records, answer⟩) blocked
    | untold _ created => exact created
  rw [ended]
  exact ⟨⟨_, rfl⟩, absent, created.stored.1, rfl, created.current⟩

/-! ### Both commands -/

/-- A removal or a creation of a document is refused and changes nothing, or it is carried out as a
whole; or the preferences cannot be written, and then all is as before but for the one document; or
only the id of a new document cannot be printed. -/
theorem removals_and_creations (uses : Uses config env w) (apart : w.Apart) (bits : Nat)
    (input : Input) (output : Output) :
    (∀ raw, Removal w raw (w.perform bits input (.deleteDocument raw) output).value) ∧
      ∀ name, Creation w (.generate bits) output
        (w.perform bits input (.newDocument name) output).value :=
  ⟨removal_perform uses apart bits input output, creation_perform apart bits input output⟩

theorem blocked_removal_and_creation :
    Uses (deskConfig none) {} blocked ∧ blocked.Apart ∧
      Removal blocked documentA.text
        (blocked.perform 0 (.atOnce .empty) (.deleteDocument documentA.text) (.limited 0 .full)).value ∧
      Creation blocked (.generate 0) (.limited 0 .full)
        (blocked.perform 0 (.atOnce .empty) (.newDocument "x") (.limited 0 .full)).value := by
  obtain ⟨removal, creation⟩ :=
    removals_and_creations uses_blocked apart_blocked 0 (.atOnce .empty) (.limited 0 .full)
  exact ⟨uses_blocked, apart_blocked, removal documentA.text, creation "x"⟩

/-- While the preferences cannot be written, the record of the current document is removed and the
document is current all the same; and a new document is stored that nobody is told of. Where the
preferences are the record of a document, that record is written as its document is removed. If nothing
can be printed, a new document is the current one all the same. -/
theorem commands_stop_halfway :
    ((∃ e, (blocked.perform 0 (.atOnce .empty) (.deleteDocument documentA.text)).value.1.result =
          .error e) ∧
        blocked.library.has documentA = .ok true ∧
        (blocked.perform 0 (.atOnce .empty) (.deleteDocument documentA.text)
          ).value.2.library.has documentA = .ok false) ∧
      ((∃ e, (blocked.perform 0 (.atOnce .empty) (.newDocument "x")).value.1.result = .error e) ∧
        blocked.library.has (.generate 0) = .ok false ∧
        (blocked.perform 0 (.atOnce .empty) (.newDocument "x")).value.2.library.has (.generate 0) =
          .ok true) ∧
      ((overlaid.perform 0 (.atOnce .empty) (.deleteDocument documentA.text)).value.1.result = .ok () ∧
        (overlaid.perform 0 (.atOnce .empty) (.deleteDocument documentA.text)
          ).value.2.library.has documentA = .ok true) ∧
      ((∃ e, (bare.perform 0 (.atOnce .empty) (.newDocument "x") (.limited 0 .full)).value.1.result =
          .error e) ∧
        bare.library.has (.generate 0) = .ok false ∧
        (bare.perform 0 (.atOnce .empty) (.newDocument "x") (.limited 0 .full)
          ).value.2.library.has (.generate 0) = .ok true ∧
        bare.preferences.get .currentDocument = none ∧
        (bare.perform 0 (.atOnce .empty) (.newDocument "x") (.limited 0 .full)
          ).value.2.preferences.currentDocument.value = some (.generate 0)) := by
  have there : overlaid.library.records.contains documentA.text = true :=
    contains_onDesk (standsAt_deskWith "[1]") (node?_deskWith "[1]")
  have overlaid_removal := removal_of_preferences (w := overlaid) (by decide) (by decide)
    there (currentDocument_of_some (by decide)) (by decide)
  refine ⟨removal_blocked, creation_blocked, ?_, creation_untold⟩
  rw [value_perform_delete]
  exact overlaid_removal

end Sketchbook.Workspace
