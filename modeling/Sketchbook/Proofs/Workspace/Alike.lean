import Sketchbook.Proofs.Autosave.Paired
import Sketchbook.Proofs.Workspace.Layout

/-!
Two workspaces side by side, on disks that differ in some files. A command that looks at none of these
files gives the same answer in both, and the disks differ afterwards in no other file (`perform_alike`).
-/
namespace Sketchbook.Workspace

variable {w v : Workspace} {root : Location} {hidden : Location → Prop}

/-- Two workspaces that differ only in files at some places. -/
structure Alike (hidden : Location → Prop) (w v : Workspace) : Prop where
  same : v = { w with disk := v.disk }
  disk : w.disk.ChangesOnly v.disk hidden

/-- Two outcomes with the same answer, and with workspaces that differ only in files at some places. -/
structure SameAnswer {α : Type} (hidden : Location → Prop) (own other : α × Workspace) : Prop where
  answer : other.1 = own.1
  workspace : Alike hidden own.2 other.2

theorem Alike.preferences (alike : Alike hidden w v) (key : PreferenceKey) :
    v.preferences.get key = w.preferences.get key :=
  get_of_items (by rw [alike.same])

theorem Alike.currentDocument (alike : Alike hidden w v) :
    v.preferences.currentDocument = w.preferences.currentDocument :=
  currentDocument_congr (alike.preferences .currentDocument)

theorem Alike.fonts (alike : Alike hidden w v) : v.preferences.fonts = w.preferences.fonts := by
  unfold Preferences.fonts
  rw [alike.preferences]

theorem Alike.records (alike : Alike hidden w v) (laid : Laid root w) :
    w.library.records.Paired (libraryPlace root) hidden v.library.records := by
  refine ⟨?_, laid.documents, alike.disk⟩
  rw [alike.same]
  rfl

private theorem Alike.withLibrary {records records' : DirectoryRecords} (alike : Alike hidden w v)
    (paired : records.Paired (libraryPlace root) hidden records') :
    Alike hidden (w.withLibrary ⟨records⟩) (v.withLibrary ⟨records'⟩) := by
  refine ⟨?_, paired.only⟩
  rw [alike.same]
  rfl

private theorem Alike.perform (alike : Alike hidden w v) (laid : Laid root w) (c : PreferenceChange) :
    (c.perform v.preferences.store).1 = (c.perform w.preferences.store).1 ∧
      Alike hidden (w.withPreferences ⟨(c.perform w.preferences.store).2⟩)
        (v.withPreferences ⟨(c.perform v.preferences.store).2⟩) := by
  have done := FilePreferences.perform_alike (s := w.preferences.store) laid.preferences alike.disk c
  have store : v.preferences.store = { w.preferences.store with disk := v.disk } := by
    rw [alike.same]
    rfl
  rw [store]
  refine ⟨done.result, ?_, done.disk⟩
  rw [alike.same]
  simp only [withPreferences, done.items]

private theorem Alike.carryOut (alike : Alike hidden w v) (laid : Laid root w)
    (c : PreferenceChange) : SameAnswer hidden (w.carryOut c) (v.carryOut c) := by
  obtain ⟨result, left⟩ := alike.perform laid c
  exact ⟨congrArg (Except.mapError CommandError.store) result, left⟩

private theorem Laid.withLibrary {records : DirectoryRecords} {touched : Location → Prop}
    (laid : Laid root w) (only : w.disk.ChangesOnly records.disk touched) :
    Laid root (w.withLibrary ⟨records⟩) :=
  laid.of_changesOnly ⟨rfl, rfl, rfl, only.workDir⟩ only

private theorem Laid.carryOut (laid : Laid root w) (c : PreferenceChange) :
    Laid root (w.carryOut c).2 := by
  have only := FilePreferences.changesOnly_perform (s := w.preferences.store) laid.preferences c
  exact laid.of_changesOnly ⟨rfl, rfl, rfl, only.workDir⟩ only

/-! ### Documents -/

/-- The documents whose records a command looks at. One that only writes a record does not look at it. -/
def regards (w : Workspace) : Command → DocumentId → Prop
  | .getDocument raw, id | .deleteDocument raw, id | .edit (some raw) _, id => id.text = raw
  | .edit none _, id => w.preferences.currentDocument.value = some id
  | _, _ => False

/-- Neither the directory of the documents nor the records of some documents are hidden. -/
structure Seen (root : Location) (hidden : Location → Prop) (ids : DocumentId → Prop) : Prop where
  around : ¬ hidden (libraryPlace root)
  records : ∀ id, ids id → ¬ hidden (recordPlace root id)

private theorem Alike.getDocument (alike : Alike hidden w v) (laid : Laid root w) {raw : String}
    (seen : Seen root hidden (·.text = raw)) : v.getDocument raw = w.getDocument raw := by
  unfold Workspace.getDocument
  cases parsed : parseId raw with
  | error e => simp only [bind, Except.bind]
  | ok id =>
    have paired := alike.records laid
    have found := paired.lookup seen.around (seen.records id (text_of_parseId parsed))
    have got := get_library_congr (DirectoryRecords.get_of_lookup paired.base found)
    simp only [bind, Except.bind, got]

private theorem Alike.putDocument (alike : Alike hidden w v) (laid : Laid root w) (raw : String)
    {file : Option Path} {input : ByteArray} (source : v.source file input = w.source file input) :
    SameAnswer hidden (w.putDocument raw file input).value (v.putDocument raw file input).value := by
  have prepared : v.prepare raw file input = w.prepare raw file input := by
    unfold prepare
    rw [source]
  unfold Workspace.putDocument
  rw [prepared]
  split
  · exact ⟨rfl, alike⟩
  · next id content _ =>
    have answers := (alike.records laid).put id.text content.toText
    obtain ⟨e, own, other⟩ | ⟨records, records', own, other, paired⟩ := answers.outcomes
    · simp only [Noted.value_bind, value_put, own, other]
      exact ⟨rfl, alike⟩
    · simp only [Noted.value_bind, value_put, own, other]
      exact ⟨rfl, alike.withLibrary paired⟩

private theorem Alike.newDocument (alike : Alike hidden w v) (laid : Laid root w) (bits : Nat)
    (name : String) :
    SameAnswer hidden (w.newDocument bits name).value (v.newDocument bits name).value := by
  have answers := (alike.records laid).put (DocumentId.generate bits).text
    Content.emptyScene.toText
  obtain ⟨e, own, other⟩ | ⟨records, records', own, other, paired⟩ := answers.outcomes
  · rw [value_newDocument_of_error own, value_newDocument_of_error other]
    exact ⟨rfl, alike⟩
  · obtain ⟨_, only⟩ := DirectoryRecords.changesOnly_of_put own
    have done := (alike.withLibrary paired).carryOut (laid.withLibrary only)
      (.set PreferenceKey.currentDocument.item (DocumentId.generate bits).text)
    rw [value_newDocument own, value_newDocument other]
    exact ⟨congrArg (Except.map fun _ => Descriptor.named bits name) done.answer, done.workspace⟩

private theorem Alike.deleteDocument (alike : Alike hidden w v) (laid : Laid root w)
    (named : w.documentsDir.text.isEmpty = false) (raw : String)
    (seen : Seen root hidden (·.text = raw)) :
    SameAnswer hidden (w.deleteDocument raw).value (v.deleteDocument raw).value := by
  have refused {e : CommandError} (own : w.withoutDocument raw = .error e)
      (other : v.withoutDocument raw = .error e) :
      SameAnswer hidden (w.deleteDocument raw).value (v.deleteDocument raw).value := by
    rw [Workspace.deleteDocument, Workspace.deleteDocument, own, other]
    exact ⟨rfl, alike⟩
  cases parsed : parseId raw with
  | error e =>
    have early (u : Workspace) : u.withoutDocument raw = .error e := by
      simp only [withoutDocument, parsed, bind, Except.bind]
    exact refused (early w) (early v)
  | ok id =>
    obtain rfl := text_of_parseId parsed
    have paired := alike.records laid
    have shown := seen.records id rfl
    have same := DirectoryRecords.contains_of_lookup (paired.lookup seen.around shown)
    by_cases there : w.library.records.contains id.text = true
    · obtain ⟨records, records', own, other, left⟩ := paired.delete named shown there
      obtain ⟨_, _, only⟩ := changesOnly_of_answer named there own
      rw [value_deleteDocument there own, value_deleteDocument (same.trans there) other,
        alike.currentDocument]
      split
      · exact (alike.withLibrary left).carryOut (laid.withLibrary only) _
      · exact ⟨rfl, alike.withLibrary left⟩
    · have missing {u : Workspace} (gone : ¬ u.library.records.contains id.text = true) :
          u.withoutDocument id.text = .error (.noSuchDocument id) := by
        simp only [withoutDocument, parsed, Library.has, Records.contains, gone, bind, Except.bind,
          Except.mapError, Bool.false_eq_true, ↓reduceIte]
      exact refused (missing there) (missing fun gone => there (same.symm.trans gone))

/-- Stores in one place answer alike for a document if their disks do not differ in its record. -/
private theorem answersAlike {id : DocumentId} (around : ¬ hidden (libraryPlace root))
    (seen : ¬ hidden (recordPlace root id)) :
    AnswersAlike (DirectoryRecords.Paired (libraryPlace root) hidden) id where
  get _ _ paired := DirectoryRecords.get_of_lookup paired.base (paired.lookup around seen)
  put _ _ paired text := paired.put id.text text

private theorem session_alike (alike : Alike hidden w v) (laid : Laid root w) (d : Descriptor)
    (around : ¬ hidden (libraryPlace root)) (seen : ¬ hidden (recordPlace root d.id))
    (input : List TimedLine) :
    (Session.run v.editor d input).value.printed = (Session.run w.editor d input).value.printed ∧
      (Session.run v.editor d input).value.result = (Session.run w.editor d input).value.result ∧
      Alike hidden (w.withLibrary (Session.run w.editor d input).value.editor.library)
        (v.withLibrary (Session.run v.editor d input).value.editor.library) := by
  have editor : v.editor = { w.editor with library := v.library } := by
    rw [alike.same]
    rfl
  obtain ⟨printed, result, paired⟩ := Session.run_paired (answersAlike around seen) w.editor
    (alike.records laid) input (Session.lastTime input) (fun _ => 0)
  rw [editor]
  exact ⟨printed, result, alike.withLibrary paired⟩

private theorem Alike.edit (alike : Alike hidden w v) (laid : Laid root w) {raw : Option String}
    {name : Option String} (seen : Seen root hidden (w.regards (.edit raw name)))
    (input : List TimedLine) (output : Output) :
    SameAnswer hidden (w.edit raw name input output).value (v.edit raw name input output).value := by
  have same : (v.resolveId raw).value = (w.resolveId raw).value := by
    unfold resolveId
    rw [alike.currentDocument]
  cases resolved : (w.resolveId raw).value with
  | error e =>
    rw [value_edit_of_error resolved, value_edit_of_error (same.trans resolved)]
    exact ⟨rfl, alike⟩
  | ok id =>
    have regarded : w.regards (.edit raw name) id := by
      cases raw <;> exact touches_of_resolve resolved name 0
    have chosen := alike.carryOut laid (.set PreferenceKey.currentDocument.item id.text)
    cases shown : output.refusal? with
    | some e =>
      rw [value_edit_of_refusal resolved shown, value_edit_of_refusal (same.trans resolved) shown]
      exact ⟨rfl, chosen.workspace⟩
    | none =>
      obtain ⟨printed, result, left⟩ := session_alike chosen.workspace (laid.carryOut _)
        ⟨id, name.getD id.text⟩ seen.around (seen.records id regarded) input
      rw [value_edit resolved shown, value_edit (same.trans resolved) shown]
      refine ⟨?_, left⟩
      simp only [printed, result]

/-! ### Preferences -/

private theorem Alike.set (alike : Alike hidden w v) (laid : Laid root w) (key : PreferenceKey)
    (text : String) : SameAnswer hidden (w.settle (w.preferences.set key text)).value
      (v.settle (v.preferences.set key text)).value :=
  alike.carryOut laid (.set key.item text)

private theorem Alike.setPreference (alike : Alike hidden w v) (laid : Laid root w)
    (raw value : String) :
    SameAnswer hidden (w.setPreference raw value).value (v.setPreference raw value).value := by
  unfold Workspace.setPreference
  split
  · exact ⟨rfl, alike⟩
  · exact alike.set laid _ _
  · split
    · exact ⟨rfl, alike⟩
    · exact alike.set laid _ _
  · unfold Preferences.setFonts
    split
    · exact ⟨rfl, alike⟩
    · exact alike.set laid _ _
  · exact alike.set laid _ _
  · split
    · exact ⟨rfl, alike⟩
    · exact alike.set laid _ _

private theorem Alike.clearPreference (alike : Alike hidden w v) (laid : Laid root w) (raw : String) :
    SameAnswer hidden (w.clearPreference raw).value (v.clearPreference raw).value := by
  unfold Workspace.clearPreference
  split
  · exact ⟨rfl, alike⟩
  · next key _ => exact alike.carryOut laid (.remove key.item)

private theorem Alike.addFont (alike : Alike hidden w v) (laid : Laid root w) (name : String) :
    SameAnswer hidden (w.addFont name).value (v.addFont name).value := by
  unfold Workspace.addFont Preferences.addFont
  rw [alike.fonts]
  split
  · exact ⟨rfl, alike⟩
  · split
    · exact ⟨rfl, alike⟩
    · obtain ⟨result, left⟩ := alike.perform laid (.set PreferenceKey.fonts.item
        (Text.join Preferences.fontSeparator (w.preferences.fonts ++ [name])))
      have set (u : Workspace) (text : String) : (u.preferences.set .fonts text).value =
          (((PreferenceChange.set PreferenceKey.fonts.item text).perform u.preferences.store).1,
            ⟨((PreferenceChange.set PreferenceKey.fonts.item text).perform u.preferences.store).2⟩) :=
        rfl
      simp only [Noted.value_bind, set, result]
      split
      · exact ⟨rfl, left⟩
      · exact ⟨rfl, left⟩

/-! ### Commands -/

/-- A command that does not list documents gives the same answer in both workspaces, if they do not
differ in the documents that it looks at nor in the file that its user names. -/
theorem perform_alike {bits : Nat} {input : Input} {c : Command} {output : Output}
    (alike : Alike hidden w v)
    (laid : Laid root w) (named : w.documentsDir.text.isEmpty = false)
    (listing : c ≠ .listDocuments) (seen : Seen root hidden (w.regards c))
    (given : ∀ raw file, c = .putDocument raw (some file) →
      v.disk.readText file = w.disk.readText file) :
    SameAnswer hidden (w.perform bits input c output).value
      (v.perform bits input c output).value := by
  cases c with
  | listDocuments => exact absurd rfl listing
  | getDocument raw =>
    exact ⟨congrArg (CommandReport.ofExcept output _) (alike.getDocument laid seen), alike⟩
  | putDocument raw file =>
    have source : v.source file input.bytes = w.source file input.bytes := by
      cases file with
      | none => rfl
      | some file => simp only [source, given raw file rfl]
    have done := alike.putDocument laid raw source
    exact ⟨congrArg (CommandReport.ofExcept output _) done.answer, done.workspace⟩
  | deleteDocument raw =>
    have done := alike.deleteDocument laid named raw seen
    exact ⟨congrArg (CommandReport.ofExcept output _) done.answer, done.workspace⟩
  | newDocument name =>
    have done := alike.newDocument laid bits name
    exact ⟨congrArg (CommandReport.ofExcept output _) done.answer, done.workspace⟩
  | edit raw name =>
    have done := alike.edit laid seen input.lines output
    refine ⟨?_, done.workspace⟩
    simp only [perform, Noted.value_bind, Noted.value_pure, done.answer]
  | getPreference raw =>
    have same : v.getPreference raw = w.getPreference raw := by
      simp only [getPreference, alike.preferences]
    exact ⟨congrArg (CommandReport.ofExcept output _) same, alike⟩
  | setPreference raw value =>
    have done := alike.setPreference laid raw value
    exact ⟨congrArg (CommandReport.ofExcept output _) done.answer, done.workspace⟩
  | clearPreference raw =>
    have done := alike.clearPreference laid raw
    exact ⟨congrArg (CommandReport.ofExcept output _) done.answer, done.workspace⟩
  | listPreferences =>
    have same : v.listPreferences = w.listPreferences := by
      simp only [listPreferences, alike.preferences]
    refine ⟨?_, alike⟩
    simp only [perform, Noted.value_pure, same]
  | addFont name =>
    have done := alike.addFont laid name
    exact ⟨congrArg (CommandReport.ofExcept output _) done.answer, done.workspace⟩
  | listFonts =>
    refine ⟨?_, alike⟩
    simp only [perform, Noted.value_pure, listFonts, alike.fonts]

end Sketchbook.Workspace
