import Sketchbook.Store.Error
/-!
The preferences that are kept, each with a short name and a name in the store.
-/
namespace Sketchbook

/-- A preference. -/
inductive PreferenceKey where
  /-- Which menus are expanded. -/
  | openMenus
  /-- The document that was active last. -/
  | currentDocument
  /-- The fonts that the user added. -/
  | fonts
  /-- The language of the interface. -/
  | language
  /-- Whether the user's fonts are switched on. -/
  | fontSwitch
  deriving DecidableEq, Repr

namespace PreferenceKey

/-- Every preference, in the order of listings. -/
def all : List PreferenceKey := [openMenus, currentDocument, fonts, language, fontSwitch]

/-- The name for command lines and messages. -/
def name : PreferenceKey → String
  | openMenus => "open-menu-keys"
  | currentDocument => "current-document-id"
  | fonts => "board-custom-fonts"
  | language => "language"
  | fontSwitch => "font-switch"

/-- The name in the store. -/
def item : PreferenceKey → String
  | openMenus => "inkboard:openMenuKeys"
  | currentDocument => "inkboard:currentDocumentId"
  | fonts => "inkboard:boardCustomFonts"
  | language => "inkboard:language"
  | fontSwitch => "inkboard:fontSwitch"

/-- The preference of either name. -/
def parse (raw : String) : Except StoreError PreferenceKey :=
  match all.find? fun key => key.name = raw ∨ key.item = raw with
  | some key => .ok key
  | none => .error (.unknownPreference raw)

end PreferenceKey

end Sketchbook
