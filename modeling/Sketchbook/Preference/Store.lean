import Sketchbook.Json.Printer
import Sketchbook.Json.Typed
import Sketchbook.SortedMap
import Sketchbook.Store.Error
/-!
Stores of preferences: texts under names, in memory or in one file of a disk. A file is read once
and written anew with every change; a change that cannot be written is taken back.
-/
namespace Sketchbook

/-- A type of stores of preferences. -/
class PreferenceStore (σ : Type) where
  /-- The text under a name, if there is one. -/
  getItem : σ → String → Option String
  /-- Puts a text under a name, in place of the one that was there. -/
  setItem : σ → String → String → Except StoreError Unit × σ
  /-- Removes the text under a name, if there is one. -/
  removeItem : σ → String → Except StoreError Unit × σ

/-- Preferences in memory. -/
structure MemoryPreferences where
  items : SortedMap String String := ∅

instance : PreferenceStore MemoryPreferences where
  getItem s name := s.items.get? name
  setItem s name value := (.ok (), ⟨s.items.insert name value⟩)
  removeItem s name := (.ok (), ⟨s.items.erase name⟩)

/-- Preferences in a file, with the disk that the file is on. -/
structure FilePreferences where
  path : Path
  items : SortedMap String String
  disk : Disk

namespace FilePreferences

/-- Reads preferences from the text of a file. Of a name that occurs twice the last text counts. -/
def parse (text : String) : Except Json.Error (SortedMap String String) :=
  (Json.readAll Json.expectTextMembers text).map .ofList

/-- The text of a file for preferences. -/
def render (items : SortedMap String String) : String := Json.indented items.entries

/-- Reads the preferences of a file; one that is missing holds none. -/
def load (disk : Disk) (path : Path) : Except StoreError FilePreferences :=
  match disk.readText path with
  | .ok text =>
    match parse text with
    | .ok items => .ok ⟨path, items, disk⟩
    | .error e => .error (.malformedFile path e)
  | .error .notFound => .ok ⟨path, ∅, disk⟩
  | .error e => .error (.cannotRead path e)

/-- Creates the directory of the file if it is missing. -/
def createDirectory (s : FilePreferences) : Except StoreError Unit × Disk :=
  match s.path.parent? with
  | none => (.ok (), s.disk)
  | some dir =>
    if dir.text.isEmpty || s.disk.has dir then (.ok (), s.disk)
    else
      let (made, disk) := s.disk.createDirectories dir
      (made.mapError (.cannotCreateDirectory dir), disk)

/-- Writes the items to the file. -/
def persist (s : FilePreferences) : Except StoreError Unit × FilePreferences :=
  match s.createDirectory with
  | (.error e, disk) => (.error e, { s with disk })
  | (.ok (), disk) =>
    match disk.write s.path (render s.items).toUTF8 with
    | .error e => (.error (.cannotWrite s.path e), { s with disk })
    | .ok disk => (.ok (), { s with disk })

/-- Gives a name a text, or none. -/
def assign (items : SortedMap String String) (name : String) :
    Option String → SortedMap String String
  | some value => items.insert name value
  | none => items.erase name

/-- Changes the text under a name and writes the file. If that fails the name gets its old text
back. -/
def change (s : FilePreferences) (name : String) (value : Option String) :
    Except StoreError Unit × FilePreferences :=
  match ({ s with items := assign s.items name value } : FilePreferences).persist with
  | (.ok (), changed) => (.ok (), changed)
  | (.error e, changed) =>
    (.error e, { changed with items := assign changed.items name (s.items.get? name) })

instance : PreferenceStore FilePreferences where
  getItem s name := s.items.get? name
  setItem s name value := s.change name (some value)
  removeItem s name := if s.items.contains name then s.change name none else (.ok (), s)

end FilePreferences

end Sketchbook
