import Sketchbook.Proofs.Autosave.Sessions
import Sketchbook.Proofs.Preference.Footprints
import Sketchbook.Proofs.Preference.Values
import Sketchbook.Proofs.Store.Footprints
import Sketchbook.Workspace.Command

/-!
What commands do to a workspace. A command makes a few changes, each of one record or of one preference
(`Becomes`); which records and preferences it may change is said by the command (`touches`, `adjusts`),
and every command keeps to that (`becomes_perform`).
-/
namespace Sketchbook

open DirectoryRecords (fileName)

namespace Workspace

variable {config : Config} {env : Environment} {w changed : Workspace}

/-! ### Where a workspace is -/

/-- A workspace is where a configuration says. -/
structure Uses (config : Config) (env : Environment) (w : Workspace) : Prop where
  documents : config.documentsDir env = some w.documentsDir
  preferences : config.preferencesPath env = some w.preferencesFile
  window : config.window = w.window

/-- The directory of the documents is one in the directory of the data. -/
theorem Uses.inData (uses : Uses config env w) :
    ∃ data, config.resolvedDataDir env = some data ∧ w.documentsDir = data.join "documents" := by
  obtain ⟨data, set, same⟩ := Option.map_eq_some_iff.mp uses.documents
  exact ⟨data, set, same.symm⟩

theorem isName_documents : Path.IsName "documents" := by constructor <;> decide

theorem isName_settings : Path.IsName "settings.json" := by constructor <;> decide

theorem Uses.named (uses : Uses config env w) : w.documentsDir.text.isEmpty = false := by
  obtain ⟨data, _, same⟩ := uses.inData
  rw [same]
  exact Path.isEmpty_join isName_documents

/-- The file of the preferences is in the directory of the data if the configuration does not say where
it is. -/
theorem Uses.settings (uses : Uses config env w) (default : config.preferencesFile = none) :
    ∃ data : Path, w.documentsDir = data.join "documents" ∧
      w.preferencesFile = data.join "settings.json" := by
  obtain ⟨data, set, documents⟩ := uses.inData
  have preferences := uses.preferences
  rw [Config.preferencesPath, default, set] at preferences
  exact ⟨data, documents, (Option.some.inj preferences).symm⟩

/-- The file of the preferences is no record of a document. -/
def Apart (w : Workspace) : Prop :=
  ∀ id : DocumentId, Disk.target w.disk.workDir w.preferencesFile ≠
    Disk.target w.disk.workDir w.documentsDir ++ [fileName id.text]

theorem apart_of_default (uses : Uses config env w) (default : config.preferencesFile = none) :
    w.Apart := by
  obtain ⟨data, documents, preferences⟩ := uses.settings default
  intro id same
  rw [documents, preferences, Disk.target_join _ isName_documents,
    Disk.target_join _ isName_settings] at same
  simpa using congrArg List.length same

/-! ### Single changes -/

/-- The workspace after a change of its preferences, which may fail. -/
def carryOut (w : Workspace) (c : PreferenceChange) : Except CommandError Unit × Workspace :=
  ((c.perform w.preferences.store).1.mapError .store,
    w.withPreferences ⟨(c.perform w.preferences.store).2⟩)

theorem carryOut_set (w : Workspace) (key : PreferenceKey) (text : String) :
    w.carryOut (.set key.item text) = ((w.preferences.set key text).value.1.mapError .store,
      w.withPreferences (w.preferences.set key text).value.2) := rfl

private theorem store_withPreferences {p : Preferences FilePreferences}
    (path : p.store.path = w.preferencesFile) : (w.withPreferences p).preferences.store = p.store := by
  obtain ⟨_, _, _⟩ := p
  cases path
  rfl

/-- The preferences after a change are what the change leaves. -/
theorem store_carryOut (w : Workspace) (c : PreferenceChange) :
    (w.carryOut c).2.preferences.store = (c.perform w.preferences.store).2 :=
  store_withPreferences (FilePreferences.items_perform w.preferences.store c).1

/-- A change of the preferences is made, or their file cannot be written and all are as they were. -/
theorem carryOut_cases (w : Workspace) (c : PreferenceChange) :
    (w.carryOut c).1 = .ok () ∧ (w.carryOut c).2.items = c.apply w.items ∨
      (∃ e : StoreError, e.isFault = true ∧ (w.carryOut c).1 = .error (.store e)) ∧
        (w.carryOut c).2.items = w.items ∧ (w.carryOut c).2.disk.Unwritable w.preferencesFile := by
  obtain ⟨_, ⟨made, items⟩ | ⟨⟨e, failed⟩, items, unwritable⟩⟩ :=
    FilePreferences.items_perform w.preferences.store c
  · exact Or.inl ⟨by rw [carryOut, made]; rfl, items⟩
  · have fault := FilePreferences.isFault_perform failed
    exact Or.inr ⟨⟨e, fault, by rw [carryOut, failed]; rfl⟩, items, unwritable⟩

/-- A change that has to be written is made if no directory stands in its way. -/
theorem carryOut_made {place : Location} {c : PreferenceChange}
    (led : w.disk.locate w.preferencesFile = .ok place)
    (file : w.disk.node? place ≠ some .directory) (slash : w.preferencesFile.endsInSlash = false)
    (writes : w.preferences.store.writes c = true) :
    (w.carryOut c).1 = .ok () ∧ (w.carryOut c).2.items = c.apply w.items ∧
      ∃ text, (w.carryOut c).2.disk.readText (w.carryOut c).2.preferencesFile = .ok text := by
  obtain ⟨disk, made, written⟩ :=
    FilePreferences.made_perform (s := w.preferences.store) led file slash writes
  rw [carryOut, made]
  exact ⟨rfl, rfl, _, written⟩

theorem get_of_items {key : PreferenceKey} (same : changed.items = w.items) :
    changed.preferences.get key = w.preferences.get key :=
  congrArg (SortedMap.get? · key.item) same

/-- A preference that is removed is not set, and the others are as they were. -/
theorem get_of_removed {key : PreferenceKey}
    (made : changed.items = (PreferenceChange.remove key.item).apply w.items) (other : PreferenceKey) :
    changed.preferences.get other = if other = key then none else w.preferences.get other := by
  have items : changed.preferences.get other = (w.items.erase key.item).get? other.item :=
    congrArg (SortedMap.get? · other.item) made
  rw [items, SortedMap.get?_erase]
  by_cases self : other = key
  · rw [if_pos self, if_pos (congrArg _ self)]
  · rw [if_neg self, if_neg fun same => self (PreferenceKey.item_injective same)]
    rfl

/-- A preference that is set holds its text, and the others are as they were. -/
theorem get_of_set {key : PreferenceKey} {text : String}
    (made : changed.items = (PreferenceChange.set key.item text).apply w.items)
    (other : PreferenceKey) :
    changed.preferences.get other = if other = key then some text else w.preferences.get other := by
  have items : changed.preferences.get other = (w.items.insert key.item text).get? other.item :=
    congrArg (SortedMap.get? · other.item) made
  rw [items, SortedMap.get?_insert]
  by_cases self : other = key
  · rw [if_pos self, if_pos (congrArg _ self)]
  · rw [if_neg self, if_neg fun same => self (PreferenceKey.item_injective same)]
    rfl

/-- A workspace becomes another by changes of the records of some documents and of the preferences. -/
inductive Becomes (touched : DocumentId → Prop) (made : PreferenceChange → Prop) (w : Workspace) :
    Workspace → Prop where
  | same : Becomes touched made w w
  | put {middle : Workspace} {records : DirectoryRecords} {id : DocumentId} {text : String}
      (before : Becomes touched made w middle) (own : touched id)
      (answer : middle.library.records.put id.text text = .ok records) :
      Becomes touched made w (middle.withLibrary ⟨records⟩)
  | delete {middle : Workspace} {records : DirectoryRecords} {id : DocumentId}
      (before : Becomes touched made w middle) (own : touched id)
      (there : middle.library.records.contains id.text = true)
      (answer : middle.library.records.delete id.text = .ok records) :
      Becomes touched made w (middle.withLibrary ⟨records⟩)
  | prefer {middle : Workspace} {c : PreferenceChange} (before : Becomes touched made w middle)
      (own : made c) : Becomes touched made w (middle.carryOut c).2

variable {touched : DocumentId → Prop} {made : PreferenceChange → Prop}

/-- The records of a workspace with other records are those. -/
theorem records_withLibrary {records : DirectoryRecords} (base : records.base = w.documentsDir) :
    (w.withLibrary ⟨records⟩).library.records = records := by
  cases records
  cases base
  rfl

theorem has_withLibrary {records : DirectoryRecords} (base : records.base = w.documentsDir)
    (id : DocumentId) : (w.withLibrary ⟨records⟩).library.has id = .ok (records.contains id.text) := by
  rw [Library.has, records_withLibrary base]
  rfl

/-- Which document is current does not depend on the documents. -/
@[simp] theorem currentDocument_withLibrary (w : Workspace) (l : Library DirectoryRecords) :
    (w.withLibrary l).preferences.currentDocument = w.preferences.currentDocument := rfl

/-- What is put for one document is a change of its record. -/
private theorem becomes_of_puts {records final : DirectoryRecords} {id : DocumentId}
    {due : List (DocumentId × String)} {answers : List WriteOutcome}
    (puts : Editor.Puts records due answers final) (own : ∀ entry ∈ due, entry.1 = id)
    (allowed : touched id) (before : Becomes touched made w changed)
    (now : changed.library.records = records) :
    Becomes touched made w (changed.withLibrary ⟨final⟩) := by
  induction puts generalizing changed with
  | none =>
    subst now
    exact before
  | @saved records text next rest answers final document answer more ih =>
    subst now
    obtain rfl : document = id := own _ List.mem_cons_self
    obtain ⟨base, _⟩ := DirectoryRecords.changesOnly_of_put answer
    have rest := fun entry member => own entry (List.mem_cons_of_mem _ member)
    have after := ih rest (.put before allowed answer) (records_withLibrary (w := changed) base)
    exact after
  | refused answer more ih =>
    exact ih (fun entry member => own entry (List.mem_cons_of_mem _ member)) before now

/-! ### What each command comes to -/

variable {raw : String} {id : DocumentId}

theorem text_of_parseId (parsed : parseId raw = .ok id) : id.text = raw :=
  DocumentId.text_of_parse (mapError_eq_ok.mp parsed)

theorem value_put (l : Library DirectoryRecords) (id : DocumentId) (c : Content) :
    (l.put id c).value = (l.records.put id.text c.toText).map .mk := by
  simp only [Library.put, Library.putText, Records.put]
  split
  · next refused => rw [refused]; rfl
  · next done => rw [done]; rfl

theorem parseId_text (id : DocumentId) : parseId id.text = .ok id :=
  mapError_eq_ok.mpr (DocumentId.parse_text id)

/-- What is to be stored is an id and a content that are read from what a user gives. -/
theorem prepare_eq_ok {file : Option Path} {input : ByteArray} {content : Content} :
    w.prepare raw file input = .ok (id, content) ↔
      id.text = raw ∧ ∃ text, w.source file input = .ok text ∧ Content.ofText text = .ok content := by
  constructor
  · intro prepared
    obtain ⟨parsed, parse, rest⟩ := bind_eq_ok.mp prepared
    obtain ⟨text, given, rest⟩ := bind_eq_ok.mp rest
    obtain ⟨value, told, rest⟩ := bind_eq_ok.mp rest
    obtain ⟨rfl, rfl⟩ := Prod.mk.inj (Except.ok.inj rest)
    exact ⟨text_of_parseId parse, text, given, mapError_eq_ok.mp told⟩
  · rintro ⟨rfl, text, given, read⟩
    exact bind_eq_ok.mpr ⟨id, parseId_text id, bind_eq_ok.mpr ⟨text, given,
      bind_eq_ok.mpr ⟨content, mapError_eq_ok.mpr read, rfl⟩⟩⟩

/-- A content that is known is put, or it is told why it cannot be. -/
theorem value_putDocument_of_prepare {file : Option Path} {input : ByteArray} {content : Content}
    (prepared : w.prepare raw file input = .ok (id, content)) :
    (w.putDocument raw file input).value =
      match w.library.records.put id.text content.toText with
      | .ok records => (.ok (), w.withLibrary ⟨records⟩)
      | .error e => (.error (.cannotWriteDocument id e), w) := by
  have asked := value_put w.library id content
  unfold putDocument
  simp only [prepared, Noted.value_bind, asked]
  cases w.library.records.put id.text content.toText <;> rfl

/-- The text of a content is put as the input of a command. -/
theorem value_putDocument {content : Content} {text : String} {records : DirectoryRecords}
    (read : Content.ofText text = .ok content)
    (answer : w.library.records.put id.text content.toText = .ok records) :
    (w.putDocument id.text none text.toUTF8).value = (.ok (), w.withLibrary ⟨records⟩) := by
  have given : w.source none text.toUTF8 = .ok text := by
    rw [source, decodeText_toUTF8]
    rfl
  rw [value_putDocument_of_prepare (prepare_eq_ok.mpr ⟨rfl, text, given, read⟩), answer]

/-- A document is put, or the command is refused. -/
theorem putDocument_cases (w : Workspace) (raw : String) (file : Option Path) (input : ByteArray) :
    (∃ e, (w.putDocument raw file input).value = (.error e, w)) ∨
      ∃ (id : DocumentId) (text : String) (records : DirectoryRecords), id.text = raw ∧
        w.library.records.put id.text text = .ok records ∧
        (w.putDocument raw file input).value = (.ok (), w.withLibrary ⟨records⟩) := by
  cases prepared : w.prepare raw file input with
  | error e =>
    refine Or.inl ⟨e, ?_⟩
    rw [putDocument, prepared]
    rfl
  | ok both =>
    obtain ⟨id, content⟩ := both
    have ended := value_putDocument_of_prepare prepared
    cases answer : w.library.records.put id.text content.toText with
    | error e =>
      rw [answer] at ended
      exact Or.inl ⟨.cannotWriteDocument id e, ended⟩
    | ok records =>
      rw [answer] at ended
      exact Or.inr ⟨id, content.toText, records, (prepare_eq_ok.mp prepared).1, answer, ended⟩

/-- A record that is there is removed, and then the current document is cleared if it was that one. -/
theorem value_deleteDocument {records : DirectoryRecords}
    (there : w.library.records.contains id.text = true)
    (answer : w.library.records.delete id.text = .ok records) :
    (w.deleteDocument id.text).value =
      if w.preferences.currentDocument.value = some id then
        (w.withLibrary ⟨records⟩).carryOut (.remove PreferenceKey.currentDocument.item)
      else (.ok (), w.withLibrary ⟨records⟩) := by
  have removed : w.withoutDocument id.text = .ok (id, ⟨records⟩) := by
    simp only [withoutDocument, parseId_text, Library.has, Records.contains, there, Library.delete,
      Records.delete, answer, bind, Except.bind, Except.mapError, Except.map, pure, Except.pure,
      ↓reduceIte]
  unfold deleteDocument
  simp only [removed, Noted.value_bind, currentDocument_withLibrary]
  split
  · rfl
  · rfl

/-- A record is removed, and then the current document is cleared if it was that one; or the command is
refused. -/
theorem deleteDocument_cases (w : Workspace) (raw : String) :
    (∃ e, (w.deleteDocument raw).value = (.error e, w)) ∨
      ∃ (id : DocumentId) (records : DirectoryRecords), id.text = raw ∧
        w.library.records.contains id.text = true ∧ w.library.records.delete id.text = .ok records ∧
        (w.deleteDocument raw).value =
          if w.preferences.currentDocument.value = some id then
            (w.withLibrary ⟨records⟩).carryOut (.remove PreferenceKey.currentDocument.item)
          else (.ok (), w.withLibrary ⟨records⟩) := by
  cases removed : w.withoutDocument raw with
  | error e => exact Or.inl ⟨e, by rw [deleteDocument, removed]; rfl⟩
  | ok both =>
    obtain ⟨id, parse, rest⟩ := bind_eq_ok.mp removed
    obtain ⟨there, has, rest⟩ := bind_eq_ok.mp rest
    obtain rfl : w.library.records.contains id.text = there := Except.ok.inj has
    obtain rfl := text_of_parseId parse
    split at rest
    · next there =>
      obtain ⟨l, deleted, rest⟩ := bind_eq_ok.mp rest
      cases answer : w.library.records.delete id.text with
      | error e =>
        simp only [Library.delete, Records.delete, answer] at deleted
        cases deleted
      | ok records =>
        exact Or.inr ⟨id, records, rfl, there, answer, value_deleteDocument there answer⟩
    · cases rest

/-- A new document that could be put is made the current one. -/
theorem value_newDocument {bits : Nat} {records : DirectoryRecords}
    (answer : w.library.records.put (DocumentId.generate bits).text Content.emptyScene.toText =
      .ok records) (name : String) :
    (w.newDocument bits name).value =
      (((w.withLibrary ⟨records⟩).carryOut (.set PreferenceKey.currentDocument.item
          (DocumentId.generate bits).text)).1.map (fun _ => Descriptor.named bits name),
        ((w.withLibrary ⟨records⟩).carryOut (.set PreferenceKey.currentDocument.item
          (DocumentId.generate bits).text)).2) := by
  have asked := value_put w.library (DocumentId.generate bits) .emptyScene
  rw [answer] at asked
  unfold newDocument
  simp only [Noted.value_bind, Noted.value_pure, Descriptor.named, asked, Except.map, carryOut_set,
    Preferences.setCurrentDocument]
  cases ((w.withLibrary ⟨records⟩).preferences.set .currentDocument
    (DocumentId.generate bits).text).value.1 <;> rfl

/-- A new document that cannot be put is not made the current one. -/
theorem value_newDocument_of_error {bits : Nat} {e : StoreError}
    (answer : w.library.records.put (DocumentId.generate bits).text Content.emptyScene.toText =
      .error e) (name : String) : (w.newDocument bits name).value = (.error (.store e), w) := by
  have asked := value_put w.library (DocumentId.generate bits) .emptyScene
  rw [answer] at asked
  unfold newDocument
  simp only [Noted.value_bind, Noted.value_pure, Descriptor.named, asked, Except.map]

/-- A new document is put and then made the current one, or the command is refused. -/
theorem newDocument_cases (w : Workspace) (bits : Nat) (name : String) :
    (∃ e, (w.newDocument bits name).value = (.error e, w)) ∨
      ∃ records : DirectoryRecords,
        w.library.records.put (DocumentId.generate bits).text Content.emptyScene.toText = .ok records ∧
        (w.newDocument bits name).value =
          (((w.withLibrary ⟨records⟩).carryOut (.set PreferenceKey.currentDocument.item
              (DocumentId.generate bits).text)).1.map (fun _ => Descriptor.named bits name),
            ((w.withLibrary ⟨records⟩).carryOut (.set PreferenceKey.currentDocument.item
              (DocumentId.generate bits).text)).2) := by
  cases answer : w.library.records.put (DocumentId.generate bits).text Content.emptyScene.toText with
  | error e => exact Or.inl ⟨.store e, value_newDocument_of_error answer name⟩
  | ok records => exact Or.inr ⟨records, rfl, value_newDocument answer name⟩

/-- The fonts that are set can be read. -/
def FontsHeld (w : Workspace) : Prop :=
  ∀ text, w.preferences.get .fonts = some text → Preferences.Form .fonts text

/-- A change of a preference: it is removed, or it is set to a text of its form. Fonts are added to
those that are held. -/
inductive Suits (w : Workspace) (key : PreferenceKey) : PreferenceChange → Prop where
  | remove : Suits w key (.remove key.item)
  | set {text : String} (form : w.FontsHeld → Preferences.Form key text) :
      Suits w key (.set key.item text)

theorem parse_of_parseKey {key : PreferenceKey} (parsed : parseKey raw = .ok key) :
    PreferenceKey.parse raw = .ok key :=
  mapError_eq_ok.mp parsed

/-- The words for a switch that is on, and those for one that is off. -/
theorem parseSwitch_eq_ok {value : String} {on : Bool} : parseSwitch value = .ok on ↔
    Preferences.Admits value .fontSwitch ∧ (on = true ↔ value ∈ ["true", "on", "1"]) := by
  unfold parseSwitch Preferences.Admits
  split
  · next word => cases on <;> simp [word]
  · next other =>
    split
    · next word => cases on <;> simp [other, word]
    · next another => simp [other, another]

/-- A preference is set to a text that stores what the user gave, or the command is refused: no preference
has the name, or what the user gave stands for none of its values. -/
theorem setPreference_cases (w : Workspace) (raw value : String) :
    ((∀ key, PreferenceKey.parse raw = .ok key → ¬ Preferences.Admits value key) ∧
        ∃ e, (w.setPreference raw value).value = (.error e, w)) ∨
      ∃ key text, PreferenceKey.parse raw = .ok key ∧ Preferences.StoredAs value key text ∧
        (w.setPreference raw value).value = w.carryOut (.set key.item text) := by
  -- A preference that is named is the only one that is.
  have only {known : PreferenceKey} (parsed : parseKey raw = .ok known)
      (unfit : ¬ Preferences.Admits value known) (key : PreferenceKey)
      (named : PreferenceKey.parse raw = .ok key) : ¬ Preferences.Admits value key := by
    cases named.symm.trans (parse_of_parseKey parsed)
    exact unfit
  unfold setPreference
  split
  · next e unknown =>
    refine Or.inl ⟨fun key named => ?_, e, rfl⟩
    cases unknown.symm.trans (mapError_eq_ok.mpr named)
  · next parsed =>
    exact Or.inr ⟨_, _, parse_of_parseKey parsed, Preferences.storedAs_menus value, rfl⟩
  · next parsed =>
    split
    · next fault refused =>
      refine Or.inl ⟨only parsed fun valid => ?_, _, rfl⟩
      obtain ⟨id, rfl⟩ := DocumentId.exists_text_iff.mpr valid
      cases refused.symm.trans (DocumentId.parse_text id)
    · next id given =>
      obtain rfl := DocumentId.text_of_parse given
      exact Or.inr ⟨_, _, parse_of_parseKey parsed, Preferences.storedAs_currentDocument id, rfl⟩
  · next parsed =>
    unfold Preferences.setFonts
    split
    · next fault found =>
      refine Or.inl ⟨only parsed fun valid => ?_, _, rfl⟩
      cases found.symm.trans (Preferences.admits_fonts_iff.mp valid)
    · next valid =>
      exact Or.inr ⟨_, _, parse_of_parseKey parsed, Preferences.storedAs_fonts valid, rfl⟩
  · next parsed =>
    exact Or.inr ⟨_, _, parse_of_parseKey parsed, Preferences.storedAs_language value, rfl⟩
  · next parsed =>
    split
    · next e refused =>
      refine Or.inl ⟨only parsed fun word => ?_, e, rfl⟩
      cases refused.symm.trans (parseSwitch_eq_ok.mpr ⟨word, decide_eq_true_iff⟩)
    · next on switch =>
      obtain ⟨admitted, stands⟩ := parseSwitch_eq_ok.mp switch
      exact Or.inr ⟨_, _, parse_of_parseKey parsed,
        Preferences.storedAs_fontSwitch admitted stands, rfl⟩

/-- A preference is removed, or the command is refused. -/
theorem clearPreference_cases (w : Workspace) (raw : String) :
    (∃ e, (w.clearPreference raw).value = (.error e, w)) ∨
      ∃ key, PreferenceKey.parse raw = .ok key ∧
        (w.clearPreference raw).value = w.carryOut (.remove key.item) := by
  unfold clearPreference
  split
  · next e _ => exact Or.inl ⟨e, rfl⟩
  · next key parsed => exact Or.inr ⟨key, parse_of_parseKey parsed, rfl⟩

/-- A font that is not there yet is added behind the others. -/
theorem value_addFont {name : String} (valid : Preferences.FontName name)
    (fresh : name ∉ w.preferences.fonts) :
    (w.addFont name).value.2 = (w.carryOut (.set PreferenceKey.fonts.item
      (Text.join Preferences.fontSeparator (w.preferences.fonts ++ [name])))).2 := by
  have added := Preferences.value_addFont_of_fresh valid fresh
  unfold addFont
  simp only [Noted.value_bind, added, carryOut_set]
  rfl

/-- A font is added to those that are held, or nothing changes. -/
theorem addFont_cases (w : Workspace) (name : String) :
    (w.addFont name).value.2 = w ∨
      ∃ text, (w.FontsHeld → Preferences.Form .fonts text) ∧
        (w.addFont name).value.2 = (w.carryOut (.set PreferenceKey.fonts.item text)).2 := by
  cases valid : Preferences.fontFault? name with
  | some fault =>
    refine Or.inl ?_
    simp only [addFont, Preferences.addFont, valid]
    rfl
  | none =>
    by_cases there : name ∈ w.preferences.fonts
    · refine Or.inl ?_
      simp only [addFont, Preferences.addFont, valid, if_pos there]
      rfl
    · have named := Preferences.fontFault?_eq_none_iff.mp valid
      refine Or.inr ⟨_, fun held => ?_, value_addFont named there⟩
      obtain ⟨_, distinct, names⟩ := Preferences.fonts_of_form held
      exact Preferences.form_addFont valid names distinct there

variable {output : Output}

/-- An edit makes its document the current one, if that can be stored, and is a session for it. -/
theorem value_edit {raw : Option String} (resolved : (w.resolveId raw).value = .ok id)
    (taken : output.refusal? = none) (name : Option String) (input : List TimedLine) :
    (w.edit raw name input output).value =
      let chosen := (w.carryOut (.set PreferenceKey.currentDocument.item id.text)).2
      let report := (Session.run chosen.editor ⟨id, name.getD id.text⟩ input).value
      (⟨[report.printed], report.result.mapError .cannotReadInput⟩,
        chosen.withLibrary report.editor.library) := by
  unfold edit chooseDocument
  simp only [Noted.value_bind, resolved, taken]
  rfl

/-- An edit the content of which cannot be printed only makes its document the current one. -/
theorem value_edit_of_refusal {raw : Option String} {e : OutputError}
    (resolved : (w.resolveId raw).value = .ok id) (refused : output.refusal? = some e)
    (name : Option String) (input : List TimedLine) :
    (w.edit raw name input output).value = (⟨[], .error (.cannotPrint e)⟩,
      (w.carryOut (.set PreferenceKey.currentDocument.item id.text)).2) := by
  unfold edit chooseDocument
  simp only [Noted.value_bind, resolved, refused]
  rfl

theorem value_edit_of_error {raw : Option String} {e : CommandError}
    (refused : (w.resolveId raw).value = .error e) (name : Option String) (input : List TimedLine) :
    (w.edit raw name input output).value = (⟨[], .error e⟩, w) := by
  unfold edit chooseDocument
  simp only [Noted.value_bind, refused]
  rfl

/-- A document is made the current one, if that can be stored, and then texts are put for it; or the
command is refused. -/
theorem edit_cases (w : Workspace) (raw name : Option String) (input : List TimedLine)
    (output : Output) :
    (∃ e, (w.edit raw name input output).value = (⟨[], .error e⟩, w)) ∨
      ∃ (id : DocumentId) (final : DirectoryRecords) (due : List (DocumentId × String))
        (answers : List WriteOutcome),
        (w.resolveId raw).value = .ok id ∧
        Editor.Puts (w.carryOut (.set PreferenceKey.currentDocument.item id.text)).2.library.records
          due answers final ∧ (∀ entry ∈ due, entry.1 = id) ∧
        (w.edit raw name input output).value.2 =
          (w.carryOut (.set PreferenceKey.currentDocument.item id.text)).2.withLibrary ⟨final⟩ := by
  cases resolved : (w.resolveId raw).value with
  | error e => exact Or.inl ⟨e, value_edit_of_error resolved name input⟩
  | ok id =>
    refine Or.inr ?_
    cases shown : output.refusal? with
    | some e =>
      rw [value_edit_of_refusal resolved shown]
      exact ⟨id, _, [], [], rfl, .none, by simp, rfl⟩
    | none =>
      obtain ⟨due, answers, puts, own⟩ := Session.puts_run
        (w.carryOut (.set PreferenceKey.currentDocument.item id.text)).2.editor
        ⟨id, name.getD id.text⟩ input (Session.lastTime input) (fun _ => 0)
      rw [value_edit resolved shown]
      exact ⟨id, _, due, answers, rfl, puts, own, rfl⟩

/-! ### What a command may change -/

/-- The documents that a command may change. -/
def touches (w : Workspace) (bits : Nat) : Command → DocumentId → Prop
  | .putDocument raw _, id | .deleteDocument raw, id | .edit (some raw) _, id => id.text = raw
  | .newDocument _, id => id = .generate bits
  | .edit none _, id => w.preferences.currentDocument.value = some id
  | _, _ => False

/-- The preferences that a command may change. -/
def adjusts (w : Workspace) : Command → PreferenceKey → Prop
  | .deleteDocument raw, key =>
    key = .currentDocument ∧ ∃ id, id.text = raw ∧ w.preferences.currentDocument.value = some id
  | .newDocument _, key | .edit _ _, key => key = .currentDocument
  | .setPreference raw _, key | .clearPreference raw, key => PreferenceKey.parse raw = .ok key
  | .addFont _, key => key = .fonts
  | _, _ => False

/-- The changes of preferences that a command may make. -/
def alters (w : Workspace) (c : Command) (change : PreferenceChange) : Prop :=
  ∃ key, w.adjusts c key ∧ w.Suits key change

theorem touches_of_resolve {raw : Option String} (resolved : (w.resolveId raw).value = .ok id)
    (name : Option String) (bits : Nat) : w.touches bits (.edit raw name) id := by
  cases raw with
  | some raw => exact text_of_parseId resolved
  | none =>
    unfold resolveId at resolved
    simp only [Noted.value_bind] at resolved
    split at resolved
    · next current =>
      obtain rfl := Except.ok.inj resolved
      exact current
    · cases resolved

/-- A command changes the records and the preferences that it may change, and nothing else. -/
theorem becomes_perform (w : Workspace) (bits : Nat) (input : Input) (c : Command)
    (output : Output) :
    Becomes (w.touches bits c) (w.alters c) w (w.perform bits input c output).value.2 := by
  cases c with
  | getDocument raw => exact .same
  | listDocuments => exact .same
  | getPreference raw => exact .same
  | listPreferences => exact .same
  | listFonts => exact .same
  | putDocument raw file =>
    change Becomes _ _ w (w.putDocument raw file input.bytes).value.2
    obtain ⟨e, refused⟩ | ⟨id, text, records, named, answer, done⟩ :=
      putDocument_cases w raw file input.bytes
    · rw [refused]
      exact .same
    · rw [done]
      exact .put .same named answer
  | deleteDocument raw =>
    change Becomes _ _ w (w.deleteDocument raw).value.2
    obtain ⟨e, refused⟩ | ⟨id, records, named, there, answer, done⟩ := deleteDocument_cases w raw
    · rw [refused]
      exact .same
    · rw [done]
      have removed : Becomes (w.touches bits (.deleteDocument raw)) (w.alters (.deleteDocument raw)) w
          (w.withLibrary ⟨records⟩) := .delete .same named there answer
      split
      · next current => exact .prefer removed ⟨_, ⟨rfl, id, named, current⟩, .remove⟩
      · exact removed
  | newDocument name =>
    change Becomes _ _ w (w.newDocument bits name).value.2
    obtain ⟨e, refused⟩ | ⟨records, answer, done⟩ := newDocument_cases w bits name
    · rw [refused]
      exact .same
    · rw [done]
      exact .prefer (.put .same rfl answer)
        ⟨_, rfl, .set fun _ => Preferences.form_currentDocument (.generate bits)⟩
  | edit raw name =>
    change Becomes _ _ w (w.edit raw name input.lines output).value.2
    obtain ⟨e, refused⟩ | ⟨id, final, due, answers, resolved, puts, own, done⟩ :=
      edit_cases w raw name input.lines output
    · rw [refused]
      exact .same
    · rw [done]
      exact becomes_of_puts puts own (touches_of_resolve resolved name bits)
        (.prefer .same ⟨_, rfl, .set fun _ => Preferences.form_currentDocument id⟩) rfl
  | setPreference raw value =>
    change Becomes _ _ w (w.setPreference raw value).value.2
    obtain ⟨_, e, refused⟩ | ⟨key, text, parsed, stored, done⟩ := setPreference_cases w raw value
    · rw [refused]
      exact .same
    · rw [done]
      exact .prefer .same ⟨key, parsed, .set fun _ => stored.form⟩
  | clearPreference raw =>
    change Becomes _ _ w (w.clearPreference raw).value.2
    obtain ⟨e, refused⟩ | ⟨key, parsed, done⟩ := clearPreference_cases w raw
    · rw [refused]
      exact .same
    · rw [done]
      exact .prefer .same ⟨key, parsed, .remove⟩
  | addFont name =>
    change Becomes _ _ w (w.addFont name).value.2
    obtain same | ⟨text, form, done⟩ := addFont_cases w name
    · rw [same]
      exact .same
    · rw [done]
      exact .prefer .same ⟨_, rfl, .set form⟩

end Workspace

end Sketchbook
