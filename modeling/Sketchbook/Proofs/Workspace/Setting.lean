import Sketchbook.Proofs.Preference.Lists
import Sketchbook.Proofs.Workspace.Runs

/-!
How a user sets preferences. What can be set is read as what the user's text stands for, unless the file
cannot be written; whatever is refused changes nothing (`set_preferences_are_read_back`).
-/
namespace Sketchbook.Workspace

open Preferences (Admits)

/-- Whether a user names a preference and gives a text that it admits. -/
def Settable (raw value : String) : Prop :=
  ∃ key : PreferenceKey, (key.name = raw ∨ key.item = raw) ∧ Admits value key

/-- What it comes to that a user sets a preference. -/
structure SetsPreference (w : Workspace) (raw value : String) : Prop where
  /-- What is taken is read as what it stands for, and every other preference is as it was. -/
  taken : (w.setPreference raw value).value.1 = .ok () →
    ∃ key : PreferenceKey, (key.name = raw ∨ key.item = raw) ∧ Admits value key ∧
      (w.setPreference raw value).value.2.preferences.Reads value key ∧
      ∀ other, other ≠ key →
        (w.setPreference raw value).value.2.preferences.get other = w.preferences.get other
  /-- What is refused changes no preference. -/
  refused : ∀ e, (w.setPreference raw value).value.1 = .error e →
    w.preferences.Untouched (w.setPreference raw value).value.2.preferences
  /-- What can be set is taken unless the file cannot be written. -/
  settable : Settable raw value → (w.setPreference raw value).value.1 = .ok () ∨
    (∃ e : StoreError, e.isFault = true ∧ (w.setPreference raw value).value.1 = .error (.store e)) ∧
      (w.setPreference raw value).value.2.disk.Unwritable w.preferencesFile
  /-- Whatever else is given is refused, and the workspace is as it was. -/
  otherwise : ¬ Settable raw value → ∃ e, (w.setPreference raw value).value = (.error e, w)

variable {w : Workspace} {raw value : String}

/-- What is known if a preference is set to a text that stores what the user gave. -/
private theorem setsPreference_of_stored {key : PreferenceKey} {text : String}
    (named : PreferenceKey.parse raw = .ok key) (stored : Preferences.StoredAs value key text)
    (done : (w.setPreference raw value).value = w.carryOut (.set key.item text)) :
    w.SetsPreference raw value := by
  have names := PreferenceKey.parse_eq_ok.mp named
  have settable : Settable raw value := ⟨key, names, stored.admitted⟩
  have cases := w.carryOut_cases (.set key.item text)
  rw [← done] at cases
  obtain ⟨made, items⟩ | ⟨⟨e, fault, failed⟩, items, unwritable⟩ := cases
  · have held := get_of_set items
    constructor
    case taken =>
      intro _
      refine ⟨key, names, stored.admitted, ?_, ?_⟩
      · apply stored.reads
        rw [held key, if_pos rfl]
      · intro other ne
        rw [held other, if_neg ne]
    case refused =>
      intro e refused
      cases made.symm.trans refused
    case settable =>
      intro _
      exact .inl made
    case otherwise =>
      intro unfit
      exact absurd settable unfit
  · constructor
    case taken =>
      intro made
      cases failed.symm.trans made
    case refused =>
      intro _ _ other
      exact get_of_items items
    case settable =>
      intro _
      exact .inr ⟨⟨e, fault, failed⟩, unwritable⟩
    case otherwise =>
      intro unfit
      exact absurd settable unfit

/-- What is known if the command is refused before anything is stored. -/
private theorem setsPreference_of_refused {e : CommandError}
    (unfit : ∀ key, PreferenceKey.parse raw = .ok key → ¬ Admits value key)
    (done : (w.setPreference raw value).value = (.error e, w)) : w.SetsPreference raw value := by
  constructor
  case taken =>
    intro made
    rw [done] at made
    cases made
  case refused =>
    intro _ _ other
    rw [done]
  case settable =>
    rintro ⟨key, names, admitted⟩
    exact absurd admitted (unfit key (PreferenceKey.parse_eq_ok.mpr names))
  case otherwise =>
    intro _
    exact ⟨e, done⟩

/-- A preference that a user sets is read as what the user's text stands for, and no other is changed. If it
is not set, because there is no such preference, the text stands for none of its values or the file cannot
be written, none is changed. -/
theorem set_preferences_are_read_back (w : Workspace) (raw value : String) :
    w.SetsPreference raw value := by
  obtain ⟨unfit, e, refused⟩ | ⟨key, text, named, stored, done⟩ := w.setPreference_cases raw value
  · exact setsPreference_of_refused unfit refused
  · exact setsPreference_of_stored named stored done

/-! ### A preference that is set -/

/-- What can be set is taken where nothing obstructs the file of the preferences. -/
theorem setPreference_succeeds {key : PreferenceKey} {place : Location}
    (named : PreferenceKey.parse raw = .ok key) (admitted : Admits value key)
    (led : w.disk.locate w.preferencesFile = .ok place)
    (file : w.disk.node? place ≠ some .directory) (slash : w.preferencesFile.endsInSlash = false) :
    (w.setPreference raw value).value.1 = .ok () := by
  obtain ⟨unfit, _⟩ | ⟨_, _, _, _, done⟩ := w.setPreference_cases raw value
  · exact absurd admitted (unfit key named)
  · rw [done]
    exact (carryOut_made led file slash rfl).1

/-- A workspace in which only a language is chosen. -/
def inGerman : Workspace :=
  onDesk ⟨"data/settings.json"⟩ (.ofList [(PreferenceKey.language.item, "de")]) (desk [])

theorem menus_are_set_beside_language :
    (inGerman.setPreference "open-menu-keys" " file ,, edit").value.1 = .ok () ∧
      (inGerman.setPreference "open-menu-keys" " file ,, edit").value.2.preferences.openMenus =
        .ok ["file", "edit"] ∧
      (inGerman.setPreference "open-menu-keys" " file ,, edit").value.2.preferences.language =
        some "de" := by
  have named : PreferenceKey.parse "open-menu-keys" = .ok .openMenus := rfl
  have made : (inGerman.setPreference "open-menu-keys" " file ,, edit").value.1 = .ok () :=
    setPreference_succeeds named trivial locate_settings free_settings (by decide)
  obtain ⟨key, known, _, reads, others⟩ :=
    (set_preferences_are_read_back inGerman "open-menu-keys" " file ,, edit").taken made
  obtain rfl : key = .openMenus := by
    cases key <;> revert known <;> decide
  obtain ⟨parts, parted, menus⟩ := reads
  obtain rfl := Text.partedBy_iff.mp parted
  have names : ((Text.split ',' " file ,, edit").map Text.trim).filter (· ≠ "") = ["file", "edit"] := by
    decide
  exact ⟨made, names ▸ menus, others .language (by decide)⟩

end Sketchbook.Workspace
