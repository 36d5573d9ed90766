import Sketchbook.Proofs.Workspace.Outcomes

/-!
The current document is a stored one (`current_document_is_stored`). It is set when a document is
created, after the document has been stored, and cleared when its document is removed; no other command
removes a record. Two commands are left out, since they take any id: to set the preference itself, and
to edit a document.
-/
namespace Sketchbook

/-- Whether a command failed since a store was refused something by the disk. -/
def CommandError.isFault : CommandError → Bool
  | .cannotOpenLibrary _ e | .cannotOpenPreferences _ e | .cannotReadDocument _ e
  | .cannotWriteDocument _ e | .malformedContent e | .store e => e.isFault
  | _ => false

namespace Workspace

variable {config : Config} {env : Environment} {w changed : Workspace}

/-! ### What happens -/

/-- Events but for commands that make any id the current one. -/
def Event.Plain : Event → Prop
  | .command (.edit _ _) _ _ _ => False
  | .command (.setPreference raw _) _ _ _ => PreferenceKey.parse raw ≠ .ok .currentDocument
  | _ => True

/-- No event of a run fails by a fault of the disk. -/
def Undisturbed (config : Config) (env : Environment) (w : Workspace) (events : List Event) : Prop :=
  ∀ prior event later, events = prior ++ event :: later →
    ∀ e, (step config env (run config env w prior) event).1 = .error e → e.isFault = false

theorem undisturbed_nil : Undisturbed config env w [] := by
  intro prior event later split
  simp at split

theorem undisturbed_cons {event : Event} {rest : List Event}
    (sound : ∀ e, (step config env w event).1 = .error e → e.isFault = false)
    (after : Undisturbed config env (step config env w event).2 rest) :
    Undisturbed config env w (event :: rest) := by
  intro prior next later split
  cases prior with
  | nil =>
    obtain ⟨rfl, _⟩ := List.cons.inj split
    exact sound
  | cons first prior =>
    obtain ⟨rfl, others⟩ := List.cons.inj split
    exact after prior next later others

theorem undisturbed_of_ok {event : Event} {rest : List Event}
    (done : step config env w event = (.ok (), changed))
    (after : Undisturbed config env changed rest) : Undisturbed config env w (event :: rest) := by
  apply undisturbed_cons
  · intro e failed
    rw [done] at failed
    cases failed
  · rw [done]
    exact after

theorem Undisturbed.first {event : Event} {rest : List Event}
    (undisturbed : Undisturbed config env w (event :: rest)) {e : CommandError}
    (failed : (step config env w event).1 = .error e) : e.isFault = false :=
  undisturbed [] event rest rfl e failed

theorem Undisturbed.rest {event : Event} {rest : List Event}
    (undisturbed : Undisturbed config env w (event :: rest)) :
    Undisturbed config env (step config env w event).2 rest := by
  intro prior next later split
  exact undisturbed (event :: prior) next later (by rw [split]; rfl)

/-! ### Single commands -/

/-- The current document, if there is one, has a record. -/
def Anchored (w : Workspace) : Prop :=
  ∀ id, w.preferences.currentDocument.value = some id → w.library.has id = .ok true

/-- A change of the preferences that sets no other current document keeps the one that is stored. -/
private theorem anchored_carryOut {c : PreferenceChange} (stands : Stands config env w)
    (kept : ∀ id, (w.carryOut c).2.preferences.currentDocument.value = some id →
      w.preferences.currentDocument.value = some id)
    (anchored : w.Anchored) : (w.carryOut c).2.Anchored := by
  intro id current
  have there := anchored id (kept id current)
  obtain ⟨origin, found⟩ :=
    DirectoryRecords.standsAt_of_contains stands.uses.named (Except.ok.inj there)
  exact (sameDocument_carryOut stands.apart found c id).has.trans there

private theorem current_carryOut_set (key : PreferenceKey) (other : key ≠ .currentDocument)
    (text : String) : (w.carryOut (.set key.item text)).2.preferences.currentDocument =
      w.preferences.currentDocument := by
  apply currentDocument_congr
  obtain ⟨_, made⟩ | ⟨_, back, _⟩ := w.carryOut_cases (.set key.item text)
  · rw [get_of_set made, if_neg other.symm]
  · exact get_of_items back

private theorem current_carryOut_remove {key : PreferenceKey} {id : DocumentId}
    (current : (w.carryOut (.remove key.item)).2.preferences.currentDocument.value = some id) :
    w.preferences.currentDocument.value = some id := by
  obtain ⟨_, made⟩ | ⟨_, back, _⟩ := w.carryOut_cases (.remove key.item)
  · have left := get_of_removed (w := w) made .currentDocument
    by_cases self : PreferenceKey.currentDocument = key
    · rw [if_pos self] at left
      rw [currentDocument_of_none left] at current
      cases current
    · rw [if_neg self] at left
      rw [← currentDocument_congr left]
      exact current
  · rw [← currentDocument_congr (get_of_items back)]
    exact current

private theorem anchored_putDocument (raw : String) (file : Option Path) (input : ByteArray)
    (anchored : w.Anchored) : (w.putDocument raw file input).value.2.Anchored := by
  obtain ⟨e, refused⟩ | ⟨id, text, records, _, answer, done⟩ := putDocument_cases w raw file input
  · rw [refused]
    exact anchored
  · rw [done]
    intro other current
    obtain ⟨base, only⟩ := DirectoryRecords.changesOnly_of_put answer
    obtain ⟨origin, stands, _⟩ := DirectoryRecords.put_eq_ok.mp answer
    by_cases self : other = id
    · rw [self, has_withLibrary base, DirectoryRecords.contains_of_put answer]
    · exact (sameDocument_of_record base only stands self).has.trans (anchored other current)

private theorem anchored_of_removal {raw : String} {report : CommandReport}
    (removal : Removal w raw (report, changed)) (anchored : w.Anchored)
    (sound : ∀ e, report.result = .error e → e.isFault = false) : changed.Anchored := by
  cases removal with
  | refused => exact anchored
  | interrupted fault => cases fault.symm.trans (sound _ rfl)
  | done id _ _ left others preferences =>
    intro other current
    have self : other ≠ id := fun same => left (same ▸ current)
    have set := preferences .currentDocument
    by_cases own : w.preferences.currentDocument.value = some id
    · rw [if_pos ⟨rfl, own⟩] at set
      rw [currentDocument_of_none set] at current
      cases current
    · rw [if_neg fun both => own both.2] at set
      rw [currentDocument_congr set] at current
      exact (others other self).has.trans (anchored other current)

private theorem Created.anchored {id : DocumentId} (created : Created w id changed) :
    changed.Anchored := by
  intro other current
  obtain rfl := Option.some.inj (created.current.symm.trans current)
  exact created.stored.1

private theorem anchored_of_creation {id : DocumentId} {output : Output} {report : CommandReport}
    (creation : Creation w id output (report, changed)) (anchored : w.Anchored) :
    changed.Anchored := by
  cases creation with
  | refused => exact anchored
  | interrupted _ _ stored others preferences =>
    intro other current
    rw [currentDocument_congr (preferences .currentDocument)] at current
    by_cases self : other = id
    · rw [self]
      exact stored.1
    · exact (others other self).has.trans (anchored other current)
  | untold _ created => exact created.anchored
  | done _ created => exact created.anchored

/-- A command that does not fail by a fault of the disk leaves a current document that is stored. -/
private theorem anchored_perform {c : Command} {bits : Nat} {input : Input} {output : Output}
    (stands : Stands config env w) (plain : Event.Plain (.command c bits input output))
    (sound : ∀ e, (w.perform bits input c output).value.1.result = .error e → e.isFault = false)
    (anchored : w.Anchored) : (w.perform bits input c output).value.2.Anchored := by
  cases c with
  | getDocument raw => exact anchored
  | listDocuments => exact anchored
  | getPreference raw => exact anchored
  | listPreferences => exact anchored
  | listFonts => exact anchored
  | putDocument raw file => exact anchored_putDocument raw file input.bytes anchored
  | deleteDocument raw =>
    have removal := removal_perform stands.uses stands.apart bits input output raw
    exact anchored_of_removal removal anchored sound
  | newDocument name =>
    exact anchored_of_creation (creation_perform stands.apart bits input output name) anchored
  | edit raw name => exact plain.elim
  | setPreference raw value =>
    change (w.setPreference raw value).value.2.Anchored
    obtain ⟨_, e, refused⟩ | ⟨key, text, parsed, _, done⟩ := setPreference_cases w raw value
    · rw [refused]
      exact anchored
    · have other : key ≠ .currentDocument := fun same => plain (same ▸ parsed)
      rw [done]
      exact anchored_carryOut stands
        (fun id current => current_carryOut_set key other text ▸ current) anchored
  | clearPreference raw =>
    change (w.clearPreference raw).value.2.Anchored
    obtain ⟨e, refused⟩ | ⟨key, _, done⟩ := clearPreference_cases w raw
    · rw [refused]
      exact anchored
    · rw [done]
      exact anchored_carryOut stands (fun id => current_carryOut_remove) anchored
  | addFont name =>
    change (w.addFont name).value.2.Anchored
    obtain same | ⟨text, _, done⟩ := addFont_cases w name
    · rw [same]
      exact anchored
    · rw [done]
      exact anchored_carryOut stands
        (fun id current => current_carryOut_set .fonts (by decide) text ▸ current) anchored

/-! ### Runs -/

private theorem anchored_run {events : List Event} (stands : Stands config env w)
    (anchored : w.Anchored) (plain : ∀ event ∈ events, event.Plain)
    (undisturbed : Undisturbed config env w events) : (run config env w events).Anchored := by
  induction events generalizing w with
  | nil => exact anchored
  | cons event rest ih =>
    have next : (step config env w event).2.Anchored := by
      cases event with
      | command c bits input output =>
        exact anchored_perform stands (plain _ List.mem_cons_self)
          (fun e failed => undisturbed.first failed) anchored
      | reopen =>
        rw [step_reopen stands]
        exact anchored
    exact ih (stands_step stands event) next
      (fun event member => plain event (List.mem_cons_of_mem _ member)) undisturbed.rest

/-- In a workspace that began without a file of preferences the current document is one that is stored,
as long as no command takes an id for it and the disk refuses nothing. -/
theorem current_document_is_stored {disk : Disk} (opened : («open» config env disk).1 = .ok w)
    (missing : w.disk.readText w.preferencesFile = .error .notFound) (apart : w.Apart)
    {events : List Event} (plain : ∀ event ∈ events, event.Plain)
    (undisturbed : Undisturbed config env w events) (id : DocumentId)
    (current : (run config env w events).preferences.currentDocument.value = some id) :
    (run config env w events).library.has id = .ok true := by
  obtain ⟨uses, kept⟩ := of_open opened
  have anchored : w.Anchored := by
    intro id current
    rw [currentDocument_of_none (unset_of_missing kept missing .currentDocument)] at current
    cases current
  exact anchored_run ⟨uses, apart, kept⟩ anchored plain undisturbed id current

/-! ### A creation on a desk -/

/-- A document is created, a removal is refused, and the workspace is opened again. -/
def oneCreation : List Event :=
  [.command (.newDocument "x") 0 (.atOnce .empty), .command (.deleteDocument "") 0 (.atOnce .empty),
    .reopen]

/-- A run of these events ends in the workspace that the creation leaves. -/
private theorem run_oneCreation {d : Descriptor} {text : String} (stands : Stands config env w)
    (created : (w.newDocument 0 "x").value = (.ok d, changed))
    (read : changed.disk.readText changed.preferencesFile = .ok text) :
    run config env w oneCreation = changed ∧ Undisturbed config env w oneCreation := by
  have first : step config env w (.command (.newDocument "x") 0 (.atOnce .empty)) =
      (.ok (), changed) := by
    rw [step, value_perform_new, created]
    rfl
  have refused : step config env changed (.command (.deleteDocument "") 0 (.atOnce .empty)) =
      (.error (.invalidId "" .blank), changed) := rfl
  have after := stands_step stands (.command (.newDocument "x") 0 (.atOnce .empty))
  rw [first] at after
  have again := step_reopen_of_read after read
  constructor
  · simp only [run, oneCreation, List.foldl, first, refused, again]
  · refine undisturbed_of_ok first (undisturbed_cons ?_ ?_)
    · intro e failed
      rw [refused] at failed
      obtain rfl := Except.error.inj failed
      rfl
    · rw [refused]
      exact undisturbed_of_ok again undisturbed_nil

theorem oneCreation_is_stored :
    («open» (deskConfig none) {} (desk [])).1 = .ok (onDesk ⟨"data/settings.json"⟩ ∅ (desk [])) ∧
      (desk []).readText ⟨"data/settings.json"⟩ = .error .notFound ∧
      (onDesk ⟨"data/settings.json"⟩ ∅ (desk [])).Apart ∧
      (∀ event ∈ oneCreation, event.Plain) ∧
      Undisturbed (deskConfig none) {} (onDesk ⟨"data/settings.json"⟩ ∅ (desk [])) oneCreation ∧
      (run (deskConfig none) {} (onDesk ⟨"data/settings.json"⟩ ∅ (desk [])) oneCreation
        ).preferences.currentDocument.value = some (.generate 0) ∧
      (run (deskConfig none) {} (onDesk ⟨"data/settings.json"⟩ ∅ (desk [])) oneCreation
        ).library.has (.generate 0) = .ok true := by
  have opened := open_desk none (p := ⟨"data/settings.json"⟩) (by decide)
    missing_settings
  obtain ⟨uses, kept⟩ := of_open (congrArg Prod.fst opened)
  have apart := apart_of_default uses rfl
  have plain : ∀ event ∈ oneCreation, event.Plain := by
    simp [oneCreation, Event.Plain]
  obtain ⟨_, records, answer⟩ := put_bare
  obtain ⟨changed, text, created, read⟩ :=
    newDocument_succeeds (w := bare) answer locate_settings free_settings (by decide) "x"
  obtain ⟨ended, undisturbed⟩ := run_oneCreation ⟨uses, apart, kept⟩ created read
  have creation : Creation bare (.generate 0) .endless
      (bare.perform 0 (.atOnce .empty) (.newDocument "x")).value := creation_perform apart 0 _ _ "x"
  rw [value_perform_new, created] at creation
  have current : changed.preferences.currentDocument.value = some (.generate 0) := by
    cases creation with
    | done _ created => exact created.current
  have stored := current_document_is_stored (congrArg Prod.fst opened) missing_settings apart plain
    undisturbed (.generate 0) (by rw [ended]; exact current)
  rw [ended] at stored ⊢
  exact ⟨congrArg Prod.fst opened, missing_settings, apart, plain, undisturbed, current, stored⟩

/-! ### When the preferences are a record -/

/-- Another document. -/
def documentB : DocumentId := ⟨"b", rfl⟩

/-- A scene that is no file of preferences, but is read as one. -/
def currentScene : String := "\x7b\"inkboard:currentDocumentId\":\"b\"\x7d"

/-- Where the file of the preferences is the record of a document, whatever is put as that document can
make a document the current one that is not there. -/
theorem record_names_current_document :
    («open» (deskConfig (some recordA)) {} (desk [])).1 = .ok (onDesk recordA ∅ (desk [])) ∧
      (desk []).readText recordA = .error .notFound ∧
      (∀ event ∈ [putA currentScene, .reopen], event.Plain) ∧
      Undisturbed (deskConfig (some recordA)) {} (onDesk recordA ∅ (desk []))
        [putA currentScene, .reopen] ∧
      (run (deskConfig (some recordA)) {} (onDesk recordA ∅ (desk [])) [putA currentScene, .reopen]
        ).preferences.currentDocument.value = some documentB ∧
      (run (deskConfig (some recordA)) {} (onDesk recordA ∅ (desk [])) [putA currentScene, .reopen]
        ).library.has documentB = .ok false := by
  have opened := open_desk (some recordA) rfl missing_recordA
  have read : Content.ofText currentScene =
      .ok ⟨.object [("inkboard:currentDocumentId", .text "b")]⟩ := by cbv
  have parsed : FilePreferences.parse currentScene =
      .ok (.ofList [(PreferenceKey.currentDocument.item, documentB.text)]) := by cbv
  have put := step_putA read (by decide)
  have again := step_reopenA parsed
  have ended : run (deskConfig (some recordA)) {} (onDesk recordA ∅ (desk []))
      [putA currentScene, .reopen] =
        onDesk recordA (.ofList [(PreferenceKey.currentDocument.item, documentB.text)])
          (deskWith currentScene) := by
    simp only [run, List.foldl, put, again]
  have undisturbed : Undisturbed (deskConfig (some recordA)) {} (onDesk recordA ∅ (desk []))
      [putA currentScene, .reopen] :=
    undisturbed_of_ok put (undisturbed_of_ok again undisturbed_nil)
  have name : DirectoryRecords.fileName documentB.text = "b.json" := by decide
  have absent : (deskWith currentScene).node?
      (["data", "documents"] ++ [DirectoryRecords.fileName documentB.text]) = none := by
    rw [name, deskWith, Disk.node?_insert, if_neg (by simp), if_neg (by simp)]
    rfl
  have missing := DirectoryRecords.contains_absent (standsAt_deskWith currentScene)
    ⟨by decide, by decide⟩ absent
  rw [ended]
  exact ⟨congrArg Prod.fst opened, missing_recordA, by simp [putA, Event.Plain], undisturbed,
    currentDocument_of_some (by decide), congrArg Except.ok missing⟩

end Workspace

end Sketchbook
