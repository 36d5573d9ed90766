import Sketchbook.Proofs.Workspace.Runs

/-!
Preferences of a workspace that has only been used by commands are well formed
(`preferences_stay_well_formed`): each command writes texts of the form of its preference, and nothing
else writes the file, unless the file is the record of a document
(`record_is_read_as_preferences`).
-/
namespace Sketchbook.Workspace

open Preferences (Form)

variable {config : Config} {env : Environment} {w changed : Workspace}

/-- The text of each preference that is set has the form of that preference. -/
def Formed (w : Workspace) : Prop :=
  ∀ key text, w.preferences.get key = some text → Form key text

/-- A change that suits a workspace whose texts have their forms leaves them so. -/
private theorem formed_carryOut {origin : Workspace} {key : PreferenceKey} {c : PreferenceChange}
    (held : origin.FontsHeld) (suits : origin.Suits key c) (formed : w.Formed) :
    (w.carryOut c).2.Formed := by
  intro other text given
  obtain ⟨_, made⟩ | ⟨_, same, _⟩ := w.carryOut_cases c
  · cases suits with
    | remove =>
      rw [get_of_removed made] at given
      split at given
      · cases given
      · exact formed other text given
    | set form =>
      rw [get_of_set made] at given
      split at given
      · next self =>
        rw [self, ← Option.some.inj given]
        exact form held
      · exact formed other text given
  · rw [get_of_items same] at given
    exact formed other text given

/-- The changes that a command may make leave texts of their forms. -/
private theorem formed_of_becomes {touched : DocumentId → Prop} {c : Command}
    (becomes : Becomes touched (w.alters c) w changed) (formed : w.Formed) : changed.Formed := by
  induction becomes with
  | same => exact formed
  | put _ _ _ ih => exact ih
  | delete _ _ _ _ ih => exact ih
  | prefer _ own ih =>
    obtain ⟨key, _, suits⟩ := own
    exact formed_carryOut (formed .fonts) suits ih

/-- The preferences of a workspace that began without a file of preferences are well formed after all
commands and openings, whatever was asked and whether or not it failed. -/
theorem preferences_stay_well_formed {disk : Disk} (opened : («open» config env disk).1 = .ok w)
    (missing : w.disk.readText w.preferencesFile = .error .notFound) (apart : w.Apart)
    (events : List Event) : (run config env w events).preferences.WellFormed := by
  obtain ⟨uses, kept⟩ := of_open opened
  have keeps : ∀ (w : Workspace) (bits : Nat) (input : Input) (c : Command) (output : Output),
      Stands config env w → w.Formed → (w.perform bits input c output).value.2.Formed :=
    fun w bits input c output _ formed =>
      formed_of_becomes (becomes_perform w bits input c output) formed
  have start : w.Formed := by
    intro key text given
    cases (unset_of_missing kept missing key).symm.trans given
  have formed := (holds_run ⟨uses, apart, kept⟩ start keeps events).2
  exact Preferences.wellFormed_of_forms formed

/-- A font is added, and the open menus are set, before and after an opening. -/
def twoSettings : List Event :=
  [.command (.addFont "Virgil") 0 (.atOnce .empty), .reopen,
    .command (.setPreference "open-menu-keys" "file, edit") 0 (.atOnce .empty)]

/-- The font is set on a desk, and the menus after it. -/
private theorem run_twoSettings (stands : Stands (deskConfig none) {} bare) :
    (run (deskConfig none) {} bare twoSettings).preferences.fonts = ["Virgil"] ∧
      (run (deskConfig none) {} bare twoSettings).preferences.openMenus = .ok ["file", "edit"] := by
  have added : (bare.addFont "Virgil").value.2 =
      (bare.carryOut (.set PreferenceKey.fonts.item "Virgil")).2 :=
    value_addFont (Preferences.fontFault?_eq_none_iff.mp (by decide)) (by decide)
  obtain ⟨_, first_items, text, read⟩ := carryOut_made (w := bare)
    (c := .set PreferenceKey.fonts.item "Virgil") locate_settings free_settings (by decide) rfl
  have first : (step (deskConfig none) {} bare (.command (.addFont "Virgil") 0 (.atOnce .empty))).2 =
      (bare.addFont "Virgil").value.2 := rfl
  have after := stands_step stands (.command (.addFont "Virgil") 0 (.atOnce .empty))
  rw [first, added] at after
  have again := step_reopen_of_read after read
  generalize (bare.carryOut (.set PreferenceKey.fonts.item "Virgil")).2 = middle
    at added first_items read after again
  have ended : run (deskConfig none) {} bare twoSettings =
      (middle.setPreference "open-menu-keys" "file, edit").value.2 := by
    simp only [run, twoSettings, List.foldl, first, added, again]
    rfl
  obtain ⟨unfit, _⟩ | ⟨key, menus, named, stored, done⟩ :=
    middle.setPreference_cases "open-menu-keys" "file, edit"
  · exact absurd trivial (unfit .openMenus rfl)
  · obtain rfl : PreferenceKey.openMenus = key := Except.ok.inj named
    obtain ⟨place, _, led, stand, slash⟩ := Disk.file_of_readText read
    obtain ⟨_, items, _⟩ := carryOut_made (w := middle)
      (c := .set PreferenceKey.openMenus.item menus) led (by simp [stand]) slash rfl
    have fonts : middle.preferences.get .fonts = some "Virgil" := get_of_set first_items .fonts
    rw [ended, done]
    constructor
    · have kept := (get_of_set items .fonts).trans fonts
      rw [Preferences.fonts, kept]
      decide
    · obtain ⟨parts, parted, read⟩ := stored.reads _ (get_of_set items .openMenus)
      obtain rfl := Text.partedBy_iff.mp parted
      have names : ((Text.split ',' "file, edit").map Text.trim).filter (· ≠ "") = ["file", "edit"] := by
        decide
      exact names ▸ read

theorem twoSettings_well_formed :
    («open» (deskConfig none) {} (desk [])).1 = .ok (onDesk ⟨"data/settings.json"⟩ ∅ (desk [])) ∧
      (desk []).readText ⟨"data/settings.json"⟩ = .error .notFound ∧
      (onDesk ⟨"data/settings.json"⟩ ∅ (desk [])).Apart ∧
      (run (deskConfig none) {} (onDesk ⟨"data/settings.json"⟩ ∅ (desk []))
        twoSettings).preferences.WellFormed ∧
      (run (deskConfig none) {} (onDesk ⟨"data/settings.json"⟩ ∅ (desk []))
        twoSettings).preferences.fonts = ["Virgil"] ∧
      (run (deskConfig none) {} (onDesk ⟨"data/settings.json"⟩ ∅ (desk []))
        twoSettings).preferences.openMenus = .ok ["file", "edit"] := by
  have opened := open_desk none (p := ⟨"data/settings.json"⟩) (by decide)
    missing_settings
  obtain ⟨uses, kept⟩ := of_open (congrArg Prod.fst opened)
  have apart := apart_of_default uses rfl
  have well := preferences_stay_well_formed (congrArg Prod.fst opened) missing_settings apart twoSettings
  have set := run_twoSettings ⟨uses, apart, kept⟩
  exact ⟨congrArg Prod.fst opened, missing_settings, apart, well, set⟩

/-! ### When the file is a record -/

/-- A scene that is no file of preferences, but is read as one. -/
def maybeScene : String := "\x7b\"inkboard:fontSwitch\":\"maybe\"\x7d"

/-- Where the file of the preferences is the record of a document, whatever is put as that document
counts as preferences once the workspace is opened again. -/
theorem record_is_read_as_preferences :
    («open» (deskConfig (some recordA)) {} (desk [])).1 = .ok (onDesk recordA ∅ (desk [])) ∧
      (desk []).readText recordA = .error .notFound ∧
      (run (deskConfig (some recordA)) {} (onDesk recordA ∅ (desk []))
        [putA maybeScene, .reopen]).preferences.get .fontSwitch = some "maybe" ∧
      ¬ (run (deskConfig (some recordA)) {} (onDesk recordA ∅ (desk []))
        [putA maybeScene, .reopen]).preferences.WellFormed := by
  have opened := open_desk (some recordA) rfl missing_recordA
  have read : Content.ofText maybeScene =
      .ok ⟨.object [("inkboard:fontSwitch", .text "maybe")]⟩ := by cbv
  have parsed : FilePreferences.parse maybeScene =
      .ok (.ofList [("inkboard:fontSwitch", "maybe")]) := by cbv
  have given : (run (deskConfig (some recordA)) {} (onDesk recordA ∅ (desk []))
      [putA maybeScene, .reopen]).preferences.get .fontSwitch = some "maybe" := by
    simp only [run, List.foldl, step_putA read (by decide), step_reopenA parsed]
    rfl
  refine ⟨congrArg Prod.fst opened, missing_recordA, given, fun well => ?_⟩
  have either := well.switch "maybe" given
  exact absurd either (by decide)

end Sketchbook.Workspace
