import Sketchbook.Notice
import Sketchbook.Preference.Store
import Sketchbook.Text.Blank
import Sketchbook.Text.Separated
/-!
The user's preferences, each with its own form of text: a JSON list for the open menus, an id for
the current document, names with commas between them for the fonts, and `true` or `false` for the
font switch.
-/
namespace Sketchbook

/-- The preferences in a store. -/
structure Preferences (σ : Type) where
  store : σ

namespace Preferences

variable {σ : Type} [PreferenceStore σ]

/-- The text of a preference as it is stored. -/
def get (p : Preferences σ) (key : PreferenceKey) : Option String :=
  PreferenceStore.getItem p.store key.item

/-- Stores the text of a preference as it is. -/
def set (p : Preferences σ) (key : PreferenceKey) (value : String) :
    Noted (Except StoreError Unit × Preferences σ) := do
  note (.preferenceSet key value)
  let (result, store) := PreferenceStore.setItem p.store key.item value
  return (result, ⟨store⟩)

/-- Removes a preference, so that its default counts again. -/
def clear (p : Preferences σ) (key : PreferenceKey) : Except StoreError Unit × Preferences σ :=
  let (result, store) := PreferenceStore.removeItem p.store key.item
  (result, ⟨store⟩)

/-- The open menus; none by default. -/
def openMenus (p : Preferences σ) : Except StoreError (List String) :=
  match p.get .openMenus with
  | some text => (Json.readAll Json.expectTexts text).mapError .malformedMenuKeys
  | none => .ok []

def setOpenMenus (p : Preferences σ) (menus : List String) :
    Noted (Except StoreError Unit × Preferences σ) :=
  p.set .openMenus (Json.compact (.list (menus.map .text)))

/-- The current document, if there is one; a text that is no id does not count. -/
def currentDocument (p : Preferences σ) : Noted (Option DocumentId) :=
  match p.get .currentDocument with
  | none => pure none
  | some raw =>
    match DocumentId.parse raw with
    | .ok id => pure (some id)
    | .error fault => do
      note (.currentDocumentIgnored fault)
      return none

def setCurrentDocument (p : Preferences σ) (id : DocumentId) :
    Noted (Except StoreError Unit × Preferences σ) :=
  p.set .currentDocument id.text

/-- The character between the names of fonts. -/
def fontSeparator : Char := ','

/-- The names of fonts in a stored text; empty ones do not count. -/
def splitFonts (text : String) : List String := (Text.split fontSeparator text).filter (· ≠ "")

/-- The fonts that the user added; none by default. -/
def fonts (p : Preferences σ) : List String :=
  match p.get .fonts with
  | some text => splitFonts text
  | none => []

/-- Why a text is no name of a font. -/
def fontFault? (name : String) : Option StoreError :=
  if name.toList.all Text.isBlank then some .blankFont
  else if fontSeparator ∈ name.toList then some (.dividedFont name)
  else none

/-- Replaces the fonts. A name that is repeated counts where it comes first. -/
def setFonts (p : Preferences σ) (names : List String) :
    Noted (Except StoreError Unit × Preferences σ) :=
  match names.findSome? fontFault? with
  | some fault => pure (.error fault, p)
  | none => p.set .fonts (Text.join fontSeparator names.eraseDups)

/-- Adds a font unless it is there. Tells whether it was added. -/
def addFont (p : Preferences σ) (name : String) :
    Noted (Except StoreError Bool × Preferences σ) :=
  match fontFault? name with
  | some fault => pure (.error fault, p)
  | none =>
    if name ∈ p.fonts then pure (.ok false, p)
    else do
      let (result, p) ← p.set .fonts (Text.join fontSeparator (p.fonts ++ [name]))
      match result with
      | .error e => return (.error e, p)
      | .ok () =>
        note (.fontAdded name)
        return (.ok true, p)

/-- The language, if one is chosen. -/
def language (p : Preferences σ) : Option String := p.get .language

def setLanguage (p : Preferences σ) (code : String) :
    Noted (Except StoreError Unit × Preferences σ) :=
  p.set .language code

/-- Whether the user's fonts are switched on; off by default. -/
def fontSwitch (p : Preferences σ) : Bool := p.get .fontSwitch == some "true"

def setFontSwitch (p : Preferences σ) (on : Bool) :
    Noted (Except StoreError Unit × Preferences σ) :=
  p.set .fontSwitch (if on then "true" else "false")

end Preferences

end Sketchbook
