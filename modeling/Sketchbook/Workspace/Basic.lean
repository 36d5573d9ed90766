import Sketchbook.Document.Library
import Sketchbook.Preference.Basic
import Sketchbook.Store.Directory
import Sketchbook.Workspace.Error
/-!
Workspaces: the library and the preferences of one user, which are on the same disk. The preferences
are read when the workspace is opened.
-/
namespace Sketchbook

/-- The library and the preferences of one user. -/
structure Workspace where
  /-- How long an edit waits for its write, in milliseconds. -/
  window : Nat
  /-- The directory of the documents. -/
  documentsDir : Path
  /-- The file of the preferences. -/
  preferencesFile : Path
  /-- The preferences as they were read or written last. -/
  items : SortedMap String String
  disk : Disk

namespace Workspace

/-- The documents. -/
def library (w : Workspace) : Library DirectoryRecords := ⟨⟨w.documentsDir, w.disk⟩⟩

/-- The preferences. -/
def preferences (w : Workspace) : Preferences FilePreferences :=
  ⟨⟨w.preferencesFile, w.items, w.disk⟩⟩

/-- The workspace after a change of its documents. -/
def withLibrary (w : Workspace) (l : Library DirectoryRecords) : Workspace :=
  { w with disk := l.records.disk }

/-- The workspace after a change of its preferences. -/
def withPreferences (w : Workspace) (p : Preferences FilePreferences) : Workspace :=
  { w with items := p.store.items, disk := p.store.disk }

/-- Opens the workspace of a configuration. The directory of the documents is created if it is
missing, also if the preferences cannot be read. -/
def «open» (config : Config) (env : Environment) (disk : Disk) :
    Except CommandError Workspace × Disk :=
  match config.documentsDir env, config.preferencesPath env with
  | none, _ => (.error .noDataDir, disk)
  | some _, none => (.error .noPreferencesFile, disk)
  | some documentsDir, some preferencesFile =>
    match DirectoryRecords.establish disk documentsDir with
    | (.error e, disk) => (.error (.cannotOpenLibrary documentsDir e), disk)
    | (.ok (), disk) =>
      match FilePreferences.load disk preferencesFile with
      | .error e => (.error (.cannotOpenPreferences preferencesFile e), disk)
      | .ok preferences =>
        (.ok { window := config.window, documentsDir, preferencesFile,
               items := preferences.items, disk }, disk)

end Workspace

end Sketchbook
