import Sketchbook.Workspace.Basic
/-!
What a user does with the preferences of a workspace. Preferences are given and shown as texts.
-/
namespace Sketchbook.Workspace

/-- Takes a user's text as the name of a preference. -/
def parseKey (raw : String) : Except CommandError PreferenceKey :=
  (PreferenceKey.parse raw).mapError .store

/-- The text of a preference, if it is set. -/
def getPreference (w : Workspace) (raw : String) : Except CommandError (Option String) := do
  let key ← parseKey raw
  return w.preferences.get key

/-- The names of menus in a user's text, without the blanks around them; blank ones do not count. -/
def splitMenus (value : String) : List String :=
  ((Text.split ',' value).map Text.trim).filter (· ≠ "")

/-- Takes a user's text as a switch. -/
def parseSwitch (value : String) : Except CommandError Bool :=
  if value ∈ ["true", "on", "1"] then .ok true
  else if value ∈ ["false", "off", "0"] then .ok false
  else .error (.noSwitch value)

/-- A workspace after an operation on its preferences. -/
def settle (w : Workspace)
    (change : Noted (Except StoreError Unit × Preferences FilePreferences)) :
    Noted (Except CommandError Unit × Workspace) := do
  let (result, p) ← change
  return (result.mapError .store, w.withPreferences p)

/-- Sets a preference to what a user's text stands for. -/
def setPreference (w : Workspace) (raw value : String) :
    Noted (Except CommandError Unit × Workspace) :=
  match parseKey raw with
  | .error e => pure (.error e, w)
  | .ok .openMenus => w.settle (w.preferences.setOpenMenus (splitMenus value))
  | .ok .currentDocument =>
    match DocumentId.parse value with
    | .error fault => pure (.error (.invalidId value fault), w)
    | .ok id => w.settle (w.preferences.setCurrentDocument id)
  | .ok .fonts =>
    w.settle (w.preferences.setFonts (Text.split Preferences.fontSeparator value))
  | .ok .language => w.settle (w.preferences.setLanguage value)
  | .ok .fontSwitch =>
    match parseSwitch value with
    | .error e => pure (.error e, w)
    | .ok on => w.settle (w.preferences.setFontSwitch on)

/-- Removes a preference. -/
def clearPreference (w : Workspace) (raw : String) :
    Noted (Except CommandError Unit × Workspace) :=
  match parseKey raw with
  | .error e => pure (.error e, w)
  | .ok key => w.settle (pure (w.preferences.clear key))

/-- Every preference with its text; one that is not set has the empty text. -/
def listPreferences (w : Workspace) : List (PreferenceKey × String) :=
  PreferenceKey.all.map fun key => (key, (w.preferences.get key).getD "")

/-- Adds a font unless it is there. -/
def addFont (w : Workspace) (name : String) : Noted (Except CommandError Bool × Workspace) := do
  let (result, p) ← w.preferences.addFont name
  return (result.mapError .store, w.withPreferences p)

/-- The fonts that the user added. -/
def listFonts (w : Workspace) : List String := w.preferences.fonts

end Sketchbook.Workspace
