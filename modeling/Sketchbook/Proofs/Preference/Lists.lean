import Sketchbook.Proofs.Preference.Footprints
import Sketchbook.Proofs.Preference.Forms

/-!
Preferences that are lists. Whatever text stands for the fonts, they are added to and set as an ordered set:
a font is added at the end unless it is there, and of fonts that are set each counts where it first comes
(`fonts_are_an_ordered_set`). Open menus that were set are read again as they were, and are still there when
other preferences are changed and the file is opened again (`open_menus_survive`).
-/
namespace Sketchbook

/-- A store of preferences that can be relied on: a text that it takes is there to be read, one that it
refuses changes nothing, and no other text is touched. -/
class LawfulPreferenceStore (σ : Type) [PreferenceStore σ] : Prop where
  getItem_of_taken (s : σ) (name value : String) :
    (PreferenceStore.setItem s name value).1 = .ok () → ∀ other,
      PreferenceStore.getItem (PreferenceStore.setItem s name value).2 other =
        if other = name then some value else PreferenceStore.getItem s other
  getItem_of_refused (s : σ) (name value : String) (e : StoreError) :
    (PreferenceStore.setItem s name value).1 = .error e → ∀ other,
      PreferenceStore.getItem (PreferenceStore.setItem s name value).2 other =
        PreferenceStore.getItem s other

instance : LawfulPreferenceStore MemoryPreferences where
  getItem_of_taken s name value _ other := s.items.get?_insert name other value
  getItem_of_refused _ _ _ _ refused := nomatch refused

instance : LawfulPreferenceStore FilePreferences where
  getItem_of_taken s name value taken other := by
    obtain ⟨_, ⟨_, items⟩ | ⟨⟨e, refused⟩, _⟩⟩ := FilePreferences.items_perform s (.set name value)
    · have held := congrArg (SortedMap.get? · other) items
      exact held.trans (s.items.get?_insert name other value)
    · cases taken.symm.trans refused
  getItem_of_refused s name value e refused other := by
    obtain ⟨_, ⟨taken, _⟩ | ⟨_, items, _⟩⟩ := FilePreferences.items_perform s (.set name value)
    · cases refused.symm.trans taken
    · exact congrArg (SortedMap.get? · other) items

namespace Preferences

variable {σ : Type} [PreferenceStore σ] {p : Preferences σ} {name : String} {names : List String}

/-! ### What is asked of fonts -/

/-- Every preference is as it was. -/
def Untouched (p q : Preferences σ) : Prop := ∀ key, q.get key = p.get key

/-- The fonts have become these, and every other preference is as it was. -/
structure FontsBecome (p q : Preferences σ) (names : List String) : Prop where
  fonts : q.fonts = names
  others : ∀ key, key ≠ .fonts → q.get key = p.get key

/-- The store does not take these fonts. -/
def RefusesFonts (p : Preferences σ) (names : List String) (e : StoreError) : Prop :=
  (p.set .fonts (Text.join fontSeparator names)).value.1 = .error e

/-- What it comes to to add a font. -/
structure AddsFont (p : Preferences σ) (name : String) : Prop where
  /-- A text that is no name is refused, and nothing changes. -/
  invalid : ¬ FontName name → ∃ e, (p.addFont name).value = (.error e, p)
  /-- A font that is there is not added, and nothing changes. -/
  known : FontName name → name ∈ p.fonts → (p.addFont name).value = (.ok false, p)
  /-- Any other font comes last and is there from then on, unless the store refuses it: then nothing
  changes. -/
  fresh : FontName name → name ∉ p.fonts →
    ((p.addFont name).value.1 = .ok true ∧
        p.FontsBecome (p.addFont name).value.2 (p.fonts ++ [name]) ∧
        ((p.addFont name).value.2.addFont name).value = (.ok false, (p.addFont name).value.2)) ∨
      ∃ e, p.RefusesFonts (p.fonts ++ [name]) e ∧ (p.addFont name).value.1 = .error e ∧
        p.Untouched (p.addFont name).value.2

/-- What it comes to to set fonts. -/
structure SetsFonts (p : Preferences σ) (names : List String) : Prop where
  /-- If one of the texts is no name all are refused, and nothing changes. -/
  invalid : (∃ name ∈ names, ¬ FontName name) → ∃ e, (p.setFonts names).value = (.error e, p)
  /-- Names are set without those that are repeated, each where it first comes, unless the store refuses
  them: then nothing changes. -/
  valid : (∀ name ∈ names, FontName name) →
    ((p.setFonts names).value.1 = .ok () ∧
        p.FontsBecome (p.setFonts names).value.2 names.eraseDups ∧
        FirstAppearances names (p.setFonts names).value.2.fonts) ∨
      ∃ e, p.RefusesFonts names.eraseDups e ∧ (p.setFonts names).value.1 = .error e ∧
        p.Untouched (p.setFonts names).value.2

/-! ### What is stored for fonts -/

/-- The fonts are pieces of a list, whoever wrote the text. -/
theorem piece_of_mem_fonts (member : name ∈ p.fonts) : FontPiece name := by
  unfold fonts at member
  split at member
  · exact piece_of_mem_splitFonts member
  · cases member

theorem value_addFont_of_invalid (invalid : ¬ FontName name) :
    ∃ e, (p.addFont name).value = (.error e, p) := by
  obtain ⟨e, fault⟩ := Option.ne_none_iff_exists'.mp (mt fontFault?_eq_none_iff.mp invalid)
  exact ⟨e, by rw [addFont, fault]; rfl⟩

theorem value_addFont_of_known (valid : FontName name) (known : name ∈ p.fonts) :
    (p.addFont name).value = (.ok false, p) := by
  rw [addFont, fontFault?_eq_none_iff.mpr valid]
  simp [known]

/-- A new font is stored behind the others. -/
theorem value_addFont_of_fresh (valid : FontName name) (fresh : name ∉ p.fonts) :
    (p.addFont name).value =
      (((p.set .fonts (Text.join fontSeparator (p.fonts ++ [name]))).value.1.map fun _ => true),
        (p.set .fonts (Text.join fontSeparator (p.fonts ++ [name]))).value.2) := by
  rw [addFont, fontFault?_eq_none_iff.mpr valid]
  simp only [fresh, ↓reduceIte, Noted.value_bind]
  split
  · next refused => simp [refused, Except.map]
  · next taken => simp [taken, Except.map]

theorem value_setFonts_of_invalid (invalid : ∃ name ∈ names, ¬ FontName name) :
    ∃ e, (p.setFonts names).value = (.error e, p) := by
  obtain ⟨name, member, invalid⟩ := invalid
  have faulty : names.findSome? fontFault? ≠ none := fun faultless =>
    invalid (fontFault?_eq_none_iff.mp (List.findSome?_eq_none_iff.mp faultless name member))
  obtain ⟨e, fault⟩ := Option.ne_none_iff_exists'.mp faulty
  exact ⟨e, by rw [setFonts, fault]; rfl⟩

/-- Names are stored without those that are repeated. -/
theorem setFonts_of_valid (valid : ∀ name ∈ names, FontName name) :
    p.setFonts names = p.set .fonts (Text.join fontSeparator names.eraseDups) := by
  have faultless : names.findSome? fontFault? = none := List.findSome?_eq_none_iff.mpr
    fun name member => fontFault?_eq_none_iff.mpr (valid name member)
  rw [setFonts, faultless]

/-! ### In a store that can be relied on -/

variable [LawfulPreferenceStore σ]

/-- A preference that is set holds its text and the others are as they were, or the store refuses it and
all are. -/
theorem set_cases (p : Preferences σ) (key : PreferenceKey) (text : String) :
    ((p.set key text).value.1 = .ok () ∧ ∀ other,
        (p.set key text).value.2.get other = if other = key then some text else p.get other) ∨
      ∃ e, (p.set key text).value.1 = .error e ∧ p.Untouched (p.set key text).value.2 := by
  cases answer : (p.set key text).value.1 with
  | ok _ =>
    refine Or.inl ⟨rfl, fun other => ?_⟩
    have held := LawfulPreferenceStore.getItem_of_taken p.store key.item text answer other.item
    by_cases self : other = key
    · rw [if_pos self]
      exact held.trans (if_pos (congrArg _ self))
    · rw [if_neg self]
      exact held.trans (if_neg fun same => self (PreferenceKey.item_injective same))
  | error e =>
    refine Or.inr ⟨e, rfl, fun other => ?_⟩
    exact LawfulPreferenceStore.getItem_of_refused p.store key.item text e answer other.item

/-- Pieces that are stored as the fonts are the fonts, or the store refuses them. -/
theorem fontsBecome_of_set (p : Preferences σ) (pieces : ∀ name ∈ names, FontPiece name) :
    (p.set .fonts (Text.join fontSeparator names)).value.1 = .ok () ∧
        p.FontsBecome (p.set .fonts (Text.join fontSeparator names)).value.2 names ∨
      ∃ e, p.RefusesFonts names e ∧
        p.Untouched (p.set .fonts (Text.join fontSeparator names)).value.2 := by
  obtain ⟨taken, held⟩ | refused := p.set_cases .fonts (Text.join fontSeparator names)
  · refine Or.inl ⟨taken, ?_, fun key other => ?_⟩
    · rw [fonts, held .fonts, if_pos rfl]
      exact splitFonts_join pieces
    · rw [held key, if_neg other]
  · exact Or.inr refused

theorem addsFont (p : Preferences σ) (name : String) : p.AddsFont name := by
  refine ⟨value_addFont_of_invalid, value_addFont_of_known, ?_⟩
  intro valid fresh
  -- The fonts that are there need not be names, as others may have written them; but pieces they are.
  have pieces : ∀ other ∈ p.fonts ++ [name], FontPiece other := by
    intro other member
    rcases List.mem_append.mp member with inside | last
    · exact piece_of_mem_fonts inside
    · rw [List.mem_singleton.mp last]
      exact valid.piece
  rw [value_addFont_of_fresh valid fresh]
  obtain ⟨taken, become⟩ | ⟨e, refused, same⟩ := p.fontsBecome_of_set pieces
  · refine Or.inl ⟨by rw [taken]; rfl, become, value_addFont_of_known valid ?_⟩
    rw [become.fonts]
    exact List.mem_append_right _ (List.mem_singleton_self name)
  · exact Or.inr ⟨e, refused, congrArg (Except.map fun _ => true) refused, same⟩

theorem setsFonts (p : Preferences σ) (names : List String) : p.SetsFonts names := by
  refine ⟨value_setFonts_of_invalid, ?_⟩
  intro valid
  have pieces : ∀ name ∈ names.eraseDups, FontPiece name := by
    intro name member
    exact (valid name (List.mem_eraseDups.mp member)).piece
  rw [setFonts_of_valid valid]
  obtain ⟨taken, become⟩ | ⟨e, refused, same⟩ := p.fontsBecome_of_set pieces
  · refine Or.inl ⟨taken, become, ?_⟩
    rw [become.fonts]
    exact firstAppearances_eraseDups names
  · exact Or.inr ⟨e, refused, refused, same⟩

/-- The fonts are added to and set as an ordered set, whatever text stands for them and whoever wrote it, in
every store that can be relied on. -/
theorem fonts_are_an_ordered_set (p : Preferences σ) (name : String) (names : List String) :
    p.AddsFont name ∧ p.SetsFonts names :=
  ⟨p.addsFont name, p.setsFonts names⟩

/-- Preferences whose fonts were written by somebody else, with empty, blank and repeated names. -/
def raggedFonts : Preferences MemoryPreferences :=
  ⟨⟨.ofList [("inkboard:boardCustomFonts", ",Lora,, ,Lora,")]⟩⟩

theorem raggedFonts_ordered :
    (raggedFonts.AddsFont "Inter" ∧ raggedFonts.SetsFonts ["Lora", "Inter", "Lora"]) ∧
      (raggedFonts.addFont "Inter").value.2.fonts = ["Lora", " ", "Lora", "Inter"] ∧
      (raggedFonts.setFonts ["Lora", "Inter", "Lora"]).value.2.fonts = ["Lora", "Inter"] :=
  ⟨fonts_are_an_ordered_set _ _ _, by decide +kernel, by decide +kernel⟩

/-! ### Open menus -/

omit [LawfulPreferenceStore σ] in
/-- Menus are read from the text that lists them. -/
theorem openMenus_of_get {menus : List String}
    (held : p.get .openMenus = some (Json.compact (.list (menus.map .text)))) :
    p.openMenus = .ok menus := by
  rw [openMenus, held]
  exact congrArg (Except.mapError StoreError.malformedMenuKeys) (Json.readAll_texts menus)

/-- Menus that the store takes are listed in it. -/
theorem get_of_setOpenMenus (p : Preferences σ) (menus : List String)
    (taken : (p.setOpenMenus menus).value.1 = .ok ()) :
    (p.setOpenMenus menus).value.2.get .openMenus =
      some (Json.compact (.list (menus.map .text))) := by
  obtain ⟨_, held⟩ | ⟨e, refused, _⟩ :=
    p.set_cases .openMenus (Json.compact (.list (menus.map .text)))
  · exact held .openMenus
  · cases taken.symm.trans refused

end Preferences

namespace FilePreferences

open PreferenceChange (perform apply)

variable {s : FilePreferences}

/-- The file holds what the store holds. -/
def Saved (s : FilePreferences) : Prop := s.disk.readText s.path = .ok (render s.items)

/-- The store after events. -/
def after (s : FilePreferences) (events : List Event) : FilePreferences :=
  events.foldl (fun s event => (s.step event).2) s

/-- Whether an event leaves the text under a name alone, and the file to the store. -/
def Event.spares (name : String) : Event → Bool
  | .change (.set other _) | .change (.remove other) => other ≠ name
  | .reopen => true
  | .elsewhere _ => false

/-- A preference that the store takes is in the file. -/
theorem saved_of_set (p : Preferences FilePreferences) (key : PreferenceKey) (text : String)
    (taken : (p.set key text).value.1 = .ok ()) : (p.set key text).value.2.store.Saved := by
  have shape : (p.set key text).value =
      ((perform p.store (.set key.item text)).1, ⟨(perform p.store (.set key.item text)).2⟩) := rfl
  rw [shape] at taken ⊢
  obtain ⟨disk, ⟨made, file⟩ | ⟨⟨e, refused⟩, _⟩⟩ := perform_cases p.store (.set key.item text)
  · rw [made]
    exact file
  · rw [refused] at taken
    cases taken

/-- A change leaves the file with what the store holds: it is made, or there was nothing to write. -/
theorem saved_perform (saved : s.Saved) (c : PreferenceChange) : (perform s c).2.Saved := by
  obtain ⟨disk, ⟨made, file⟩ | ⟨_, grows, unwritable⟩⟩ := perform_cases s c
  · rw [made]
    split at file
    · exact file
    · obtain ⟨rfl, same⟩ := file
      rw [same]
      exact saved
  · -- A change is refused only where there is no file to be read.
    exact absurd (Disk.readText_of_grows grows saved) (unwritable.readText_ne _)

/-- The text under a name stays while other texts change. -/
theorem getItem_perform {c : PreferenceChange} {name : String}
    (spares : (Event.change c).spares name = true) :
    PreferenceStore.getItem (perform s c).2 name = PreferenceStore.getItem s name := by
  change (perform s c).2.items.get? name = s.items.get? name
  obtain ⟨_, ⟨_, items⟩ | ⟨_, items, _⟩⟩ := items_perform s c
  · rw [items]
    cases c with
    | set other value =>
      rw [apply, SortedMap.get?_insert, if_neg (Ne.symm (of_decide_eq_true spares))]
    | remove other =>
      rw [apply, SortedMap.get?_erase, if_neg (Ne.symm (of_decide_eq_true spares))]
  · rw [items]

/-- What is saved stays so, and a text that an event spares stays as it is. -/
theorem saved_step (saved : s.Saved) {event : Event} {name : String}
    (spares : event.spares name = true) :
    (s.step event).2.Saved ∧
      PreferenceStore.getItem (s.step event).2 name = PreferenceStore.getItem s name := by
  cases event with
  | change c => exact ⟨saved_perform saved c, getItem_perform spares⟩
  | reopen =>
    have same : (s.step .reopen).2 = s := by
      rw [step, load_of_rendered saved]
    rw [same]
    exact ⟨saved, rfl⟩
  | elsewhere f => cases spares

theorem saved_after (saved : s.Saved) {events : List Event} {name : String}
    (spared : ∀ event ∈ events, event.spares name = true) :
    (s.after events).Saved ∧
      PreferenceStore.getItem (s.after events) name = PreferenceStore.getItem s name := by
  induction events generalizing s with
  | nil => exact ⟨saved, rfl⟩
  | cons event rest ih =>
    obtain ⟨now, same⟩ := saved_step saved (spared event List.mem_cons_self)
    obtain ⟨saved, still⟩ := ih now fun event member => spared event (List.mem_cons_of_mem _ member)
    exact ⟨saved, still.trans same⟩

end FilePreferences

namespace Preferences

open FilePreferences (Event)

/-- Open menus are read from a store, and from the store that its file is opened as. -/
structure MenusKept (s : FilePreferences) (menus : List String) : Prop where
  read : openMenus ⟨s⟩ = .ok menus
  reopened : ∃ fresh, FilePreferences.load s.disk s.path = .ok fresh ∧ openMenus ⟨fresh⟩ = .ok menus

/-- Open menus that the store took are read again exactly as they were set, whatever their names and
whatever else is stored, at once and from the file; and still so after any changes of other preferences,
made or refused, and any times that the file was opened again. -/
theorem open_menus_survive (p : Preferences FilePreferences) (menus : List String)
    (taken : (p.setOpenMenus menus).value.1 = .ok ()) (events : List Event)
    (spared : ∀ event ∈ events, event.spares PreferenceKey.openMenus.item = true) :
    MenusKept ((p.setOpenMenus menus).value.2.store.after events) menus := by
  have written := FilePreferences.saved_of_set p .openMenus _ taken
  obtain ⟨saved, same⟩ := FilePreferences.saved_after written spared
  have read : openMenus ⟨(p.setOpenMenus menus).value.2.store.after events⟩ = .ok menus := by
    apply openMenus_of_get
    exact same.trans (p.get_of_setOpenMenus menus taken)
  exact ⟨read, _, FilePreferences.load_of_rendered saved, read⟩

/-- Preferences in a file that is not there yet, with a language that has a quote in it. -/
def quotedLanguage : Preferences FilePreferences :=
  ⟨⟨⟨"p"⟩, .ofList [("inkboard:language", "d\"e")], ⟨∅, []⟩⟩⟩

/-- Another language is chosen, the file is opened again, and the language is removed. -/
def laterLanguages : List Event :=
  [.change (.set "inkboard:language" "\\n"), .reopen, .change (.remove "inkboard:language")]

/-- Names of menus that have to be escaped, in the list and once more in the file. -/
def escapedMenus : List String := ["a\"b", "", "\\", "\n,é"]

theorem escapedMenus_survive :
    (quotedLanguage.setOpenMenus escapedMenus).value.1 = .ok () ∧
      (∀ event ∈ laterLanguages, event.spares PreferenceKey.openMenus.item = true) ∧
      MenusKept (quotedLanguage.setOpenMenus escapedMenus).value.2.store escapedMenus ∧
      MenusKept ((quotedLanguage.setOpenMenus escapedMenus).value.2.store.after laterLanguages)
        escapedMenus := by
  have led : Disk.locate ⟨∅, []⟩ ⟨"p"⟩ = .ok ["p"] :=
    Disk.locate_eq_ok.mpr ⟨rfl, by decide, by decide, rfl⟩
  obtain ⟨disk, made, _⟩ := FilePreferences.made_perform (s := quotedLanguage.store)
    (c := .set PreferenceKey.openMenus.item (Json.compact (.list (escapedMenus.map .text)))) led
    (by simp [quotedLanguage, Disk.node?]) (by decide) rfl
  have taken : (quotedLanguage.setOpenMenus escapedMenus).value.1 = .ok () := congrArg Prod.fst made
  have spared : ∀ event ∈ laterLanguages, event.spares PreferenceKey.openMenus.item = true := by
    simp [laterLanguages, Event.spares, PreferenceKey.item]
  exact ⟨taken, spared, open_menus_survive _ _ taken [] (by simp),
    open_menus_survive _ _ taken laterLanguages spared⟩

end Preferences

end Sketchbook
