import Sketchbook.Proofs.Document.Validity
import Sketchbook.Proofs.Preference.Lists

/-!
What users' texts stand for. Each preference admits certain texts from a user (`Admits`), stores them in a
form of its own, and is then read as what they stand for (`Reads`). That these three fit together is said
of each preference by itself (`StoredAs`).
-/
namespace Sketchbook.Preferences

variable {σ : Type} [PreferenceStore σ] {value : String}

/-- Whether a user's text stands for a value of a preference. -/
def Admits (value : String) : PreferenceKey → Prop
  | .openMenus | .language => True
  | .currentDocument => IsIdText value
  | .fonts => ∃ parts, Text.PartedBy ',' value parts ∧
      ∀ part ∈ parts, ∃ c ∈ part.toList, Text.isBlank c = false
  | .fontSwitch => value ∈ ["true", "on", "1"] ∨ value ∈ ["false", "off", "0"]

/-- That a preference is read as what a user's text stands for. Menus are the parts between commas without
the blanks around them, empty ones left out. Fonts are these parts as they are, each where it first
comes. -/
def Reads (p : Preferences σ) (value : String) : PreferenceKey → Prop
  | .openMenus => ∃ parts, Text.PartedBy ',' value parts ∧
      p.openMenus = .ok ((parts.map Text.trim).filter (· ≠ ""))
  | .currentDocument => ∃ id, p.currentDocument.value = some id ∧ id.text = value
  | .fonts => ∃ parts, Text.PartedBy ',' value parts ∧ FirstAppearances parts p.fonts
  | .language => p.language = some value
  | .fontSwitch => p.fontSwitch = true ↔ value ∈ ["true", "on", "1"]

/-- A text that stores for a preference what a user's text stands for. -/
structure StoredAs (value : String) (key : PreferenceKey) (text : String) : Prop where
  admitted : Admits value key
  form : Form key text
  reads : ∀ {τ : Type} [PreferenceStore τ] (p : Preferences τ),
    p.get key = some text → p.Reads value key

theorem storedAs_menus (value : String) : StoredAs value .openMenus (Json.compact
    (.list ((((Text.split ',' value).map Text.trim).filter (· ≠ "")).map .text))) where
  admitted := trivial
  form := form_menus _
  reads _ held := ⟨_, Text.partedBy_iff.mpr rfl, openMenus_of_get held⟩

theorem storedAs_currentDocument (id : DocumentId) :
    StoredAs id.text .currentDocument id.text where
  admitted := id.isIdText
  form := form_currentDocument id
  reads _ held := ⟨id, currentDocument_eq_some.mpr held, rfl⟩

/-- Texts are fonts if and only if each part between the commas has a character that is not blank. -/
theorem admits_fonts_iff :
    Admits value .fonts ↔ (Text.split fontSeparator value).findSome? fontFault? = none := by
  have visible (part : String) : (∃ c ∈ part.toList, Text.isBlank c = false) ↔ Text.trim part ≠ "" := by
    rw [ne_eq, Text.trim_eq_empty_iff]
    simp
  rw [List.findSome?_eq_none_iff]
  constructor
  · rintro ⟨parts, parted, names⟩ part member
    obtain rfl := Text.partedBy_iff.mp parted
    exact fontFault?_eq_none_iff.mpr
      ⟨(visible part).mp (names part member), Text.not_mem_of_mem_split member⟩
  · intro valid
    refine ⟨_, Text.partedBy_iff.mpr rfl, fun part member => ?_⟩
    exact (visible part).mpr (fontFault?_eq_none_iff.mp (valid part member)).1

theorem storedAs_fonts (valid : (Text.split fontSeparator value).findSome? fontFault? = none) :
    StoredAs value .fonts
      (Text.join fontSeparator (Text.split fontSeparator value).eraseDups) where
  admitted := admits_fonts_iff.mpr valid
  form := form_fonts valid
  reads p held := by
    have pieces : ∀ name ∈ (Text.split fontSeparator value).eraseDups, FontPiece name := by
      intro name member
      have faultless := List.findSome?_eq_none_iff.mp valid name (List.mem_eraseDups.mp member)
      exact (fontFault?_eq_none_iff.mp faultless).piece
    refine ⟨_, Text.partedBy_iff.mpr rfl, ?_⟩
    rw [fonts, held]
    simp only [splitFonts_join pieces]
    exact firstAppearances_eraseDups _

theorem storedAs_language (value : String) : StoredAs value .language value where
  admitted := trivial
  form := trivial
  reads _ held := held

theorem storedAs_fontSwitch {on : Bool} (admitted : Admits value .fontSwitch)
    (stands : on = true ↔ value ∈ ["true", "on", "1"]) :
    StoredAs value .fontSwitch (if on then "true" else "false") where
  admitted := admitted
  form := form_fontSwitch on
  reads p held := by
    have read : p.fontSwitch = on := by
      rw [fontSwitch, held]
      cases on <;> rfl
    rw [Reads, read]
    exact stands

end Sketchbook.Preferences
