import Sketchbook.Proofs.Workspace.Outcomes

/-!
Where documents and preferences are on the disk. Unless the configuration says otherwise they are beside
each other in one directory (`laid_of_open`): the record of a document is a file in the directory of the
documents, and no path of a record leads anywhere else (`place_of_record`). There a command writes only
the files of the documents and preferences that it may change (`frame_perform`).
-/
namespace Sketchbook.Workspace

open DirectoryRecords (fileName isName_fileName fileName_injective)

variable {config : Config} {env : Environment} {w changed : Workspace} {root : Location}

/-! ### Places -/

/-- The place of the directory of the documents. -/
def libraryPlace (root : Location) : Location := root ++ ["documents"]

/-- The place of the record of a document. -/
def recordPlace (root : Location) (id : DocumentId) : Location :=
  libraryPlace root ++ [fileName id.text]

/-- The place of the file of the preferences. -/
def preferencesPlace (root : Location) : Location := root ++ ["settings.json"]

theorem recordPlace_injective (root : Location) : Function.Injective (recordPlace root) := by
  intro one other same
  have names : fileName one.text = fileName other.text := by simpa [recordPlace] using same
  have texts := fileName_injective names
  cases one
  cases other
  cases texts
  rfl

theorem recordPlace_ne_preferencesPlace (root : Location) (id : DocumentId) :
    recordPlace root id ≠ preferencesPlace root := by
  intro same
  simpa [recordPlace, libraryPlace, preferencesPlace] using congrArg List.length same

theorem libraryPlace_ne_preferencesPlace (root : Location) :
    libraryPlace root ≠ preferencesPlace root := by
  simp [libraryPlace, preferencesPlace]

theorem libraryPlace_ne_recordPlace (root : Location) (id : DocumentId) :
    libraryPlace root ≠ recordPlace root id := by
  simp [recordPlace]

/-- The documents and the preferences are beside each other in one directory. -/
structure Laid (root : Location) (w : Workspace) : Prop where
  documents : w.disk.locate w.documentsDir = .ok (libraryPlace root)
  preferences : w.disk.locate w.preferencesFile = .ok (preferencesPlace root)

theorem Laid.of_changesOnly {touched : Location → Prop} (laid : Laid root w)
    (paths : SamePaths w changed) (only : w.disk.ChangesOnly changed.disk touched) :
    Laid root changed := by
  refine ⟨?_, ?_⟩
  · rw [paths.documents]
    exact only.locate_iff.mpr laid.documents
  · rw [paths.preferences]
    exact only.locate_iff.mpr laid.preferences

private theorem locate_settings_of_walk {disk : Disk} {data : Path} {items : FilePreferences}
    (clean : '\x00' ∉ data.text.toList) (walked : disk.walk data = .ok root)
    (there : disk.node? root = some .directory)
    (loaded : FilePreferences.load disk (data.join "settings.json") = .ok items) :
    disk.locate (data.join "settings.json") = .ok (preferencesPlace root) := by
  have led := Disk.locate_join_of_walk isName_settings clean walked
  rw [Disk.step_directory isName_settings there] at led
  split at led
  · -- A path that is too long could not have been read.
    have refused : disk.readText (data.join "settings.json") = .error .nameTooLong := by
      simp [Disk.readText, Disk.readBytes, Disk.lookup, led, bind, Except.bind]
    simp [FilePreferences.load, refused] at loaded
  · rw [if_neg (by decide)] at led
    exact led

/-- The preferences of a workspace are beside its documents unless the configuration says otherwise. -/
theorem laid_of_open {disk : Disk} (opened : («open» config env disk).1 = .ok w)
    (default : config.preferencesFile = none) : ∃ root, Laid root w := by
  obtain ⟨uses, has, loaded⟩ := load_of_open opened
  obtain ⟨data, documents, preferences⟩ := uses.settings default
  obtain ⟨place, led⟩ := Disk.locate_of_has has
  rw [documents] at led
  obtain ⟨root, walked, there, rfl⟩ := Disk.walk_of_locate_join isName_documents led
  have clean := Disk.noNul_of_locate_join isName_documents led
  rw [preferences] at loaded
  refine ⟨root, ?_, ?_⟩
  · rw [documents]
    exact led
  · rw [preferences]
    exact locate_settings_of_walk clean walked there loaded

/-- The path of a record leads, if it leads anywhere, to the place of that record. -/
theorem place_of_record (laid : Laid root w) (named : w.documentsDir.text.isEmpty = false)
    {id : DocumentId} {place : Location}
    (led : w.disk.locate (w.library.records.path id.text) = .ok place) : place = recordPlace root id := by
  obtain ⟨origin, located, _, shape⟩ := Disk.of_locate_join (isName_fileName id.text) named led
  obtain rfl := Except.ok.inj (laid.documents.symm.trans located)
  exact shape

/-! ### What a command leaves alone -/

/-- The places where a change of some documents and some preferences may write. -/
def Written (root : Location) (ids : DocumentId → Prop) (keys : PreferenceKey → Prop)
    (place : Location) : Prop :=
  (∃ id, ids id ∧ place = recordPlace root id) ∨ (∃ key, keys key) ∧ place = preferencesPlace root

/-- Nothing differs between two workspaces but some documents and some preferences. -/
structure Frame (root : Location) (ids : DocumentId → Prop) (keys : PreferenceKey → Prop)
    (w changed : Workspace) : Prop where
  paths : SamePaths w changed
  documents : ∀ id, ¬ ids id →
    changed.library.has id = w.library.has id ∧ changed.library.get id = w.library.get id
  preferences : ∀ key, ¬ keys key → changed.preferences.get key = w.preferences.get key
  files : w.disk.ChangesOnly changed.disk (Written root ids keys)

variable {ids : DocumentId → Prop} {keys : PreferenceKey → Prop} {made : PreferenceChange → Prop}

private theorem written_of_places {id : DocumentId} (laid : Laid root w) (own : ids id)
    {place : Location} (inside : w.library.records.places (· = id.text) place) :
    Written root ids keys place := by
  obtain ⟨origin, key, located, rfl, rfl⟩ := inside
  obtain rfl := Except.ok.inj (laid.documents.symm.trans located)
  exact Or.inl ⟨id, own, rfl⟩

/-- Changes of some documents and preferences write no files but theirs, since these stay where they are
from one change to the next. -/
private theorem changesOnly_of_becomes (named : w.documentsDir.text.isEmpty = false)
    (laid : Laid root w) (kept : ∀ c, made c → ∃ key, keys key)
    (becomes : Becomes ids made w changed) :
    w.disk.ChangesOnly changed.disk (Written root ids keys) := by
  induction becomes with
  | same => exact Disk.ChangesOnly.refl w.disk _
  | put before own answer ih =>
    have middle := laid.of_changesOnly (samePaths_of_becomes named before) ih
    obtain ⟨_, only⟩ := DirectoryRecords.changesOnly_of_put answer
    exact ih.trans (only.mono fun place => written_of_places middle own)
  | delete before own there answer ih =>
    have paths := samePaths_of_becomes named before
    have middle := laid.of_changesOnly paths ih
    obtain ⟨_, _, only⟩ := changesOnly_of_answer (paths.named named) there answer
    exact ih.trans (only.mono fun place => written_of_places middle own)
  | @prefer middle c before own ih =>
    have led := (laid.of_changesOnly (samePaths_of_becomes named before) ih).preferences
    have only := FilePreferences.changesOnly_perform (s := middle.preferences.store) led c
    exact ih.trans (only.mono fun place same => Or.inr ⟨kept c own, same⟩)

private theorem get_of_becomes {key : PreferenceKey}
    (apart : ∀ c, made c → ∃ other, other ≠ key ∧ Suits w other c)
    (becomes : Becomes ids made w changed) :
    changed.preferences.get key = w.preferences.get key := by
  induction becomes with
  | same => rfl
  | put before own answer ih => exact ih
  | delete before own there answer ih => exact ih
  | @prefer middle c before own ih =>
    obtain ⟨other, ne, suits⟩ := apart c own
    refine Eq.trans ?_ ih
    obtain ⟨_, made⟩ | ⟨_, back, _⟩ := middle.carryOut_cases c
    · cases suits with
      | remove => rw [get_of_removed made, if_neg ne.symm]
      | set form => rw [get_of_set made, if_neg ne.symm]
    · exact get_of_items back

/-- A command changes the documents and the preferences that it may change, and writes their files
only. -/
theorem frame_perform (named : w.documentsDir.text.isEmpty = false) (laid : Laid root w)
    (bits : Nat) (input : Input) (c : Command) (output : Output) :
    Frame root (w.touches bits c) (w.adjusts c) w (w.perform bits input c output).value.2 := by
  have becomes := becomes_perform w bits input c output
  have paths := samePaths_of_becomes named becomes
  have only : w.disk.ChangesOnly _ (Written root (w.touches bits c) (w.adjusts c)) :=
    changesOnly_of_becomes named laid (fun change own => own.imp fun key both => both.1) becomes
  generalize (w.perform bits input c output).value.2 = changed at becomes paths only ⊢
  refine ⟨paths, fun id apart => ?_, fun key apart => ?_, only⟩
  · have around : ¬ Written root (w.touches bits c) (w.adjusts c) (libraryPlace root) := by
      rintro (⟨other, _, same⟩ | ⟨_, same⟩)
      · exact libraryPlace_ne_recordPlace root other same
      · exact libraryPlace_ne_preferencesPlace root same
    have untouched : ¬ Written root (w.touches bits c) (w.adjusts c) (recordPlace root id) := by
      rintro (⟨other, own, same⟩ | ⟨_, same⟩)
      · exact apart (recordPlace_injective root same ▸ own)
      · exact recordPlace_ne_preferencesPlace root id same
    have found : changed.library.records.disk.lookup (changed.library.records.path id.text) =
        w.library.records.disk.lookup (w.library.records.path id.text) :=
      DirectoryRecords.lookup_of_changesOnly paths.documents only laid.documents around untouched
    exact ⟨congrArg Except.ok (DirectoryRecords.contains_of_lookup found),
      get_library_congr (DirectoryRecords.get_of_lookup paths.documents found)⟩
  · refine get_of_becomes (fun change own => ?_) becomes
    obtain ⟨other, adjusted, suits⟩ := own
    exact ⟨other, fun same => apart (same ▸ adjusted), suits⟩

end Sketchbook.Workspace
