import Sketchbook.Disk.Path
/-!
What a program is told about its user: the home directory and the directories for data and
configuration. A directory that is not absolute counts as not set.
-/
namespace Sketchbook

/-- The variables that say where a user's files are. -/
structure Environment where
  home : Option String := none
  dataHome : Option String := none
  configHome : Option String := none

namespace Environment

/-- The directory that is set, or else one in the home directory. -/
def directory (e : Environment) (set : Option String) (inHome : String) : Option Path :=
  match set.map Path.mk with
  | some p => if p.isAbsolute then some p else fallback
  | none => fallback
where
  fallback : Option Path :=
    match e.home with
    | some home => if home.isEmpty then none else some ((Path.mk home).join inHome)
    | none => none

/-- Where the user's data are. -/
def dataDir (e : Environment) : Option Path := e.directory e.dataHome ".local/share"

/-- Where the user's configuration is. -/
def configDir (e : Environment) : Option Path := e.directory e.configHome ".config"

/-- The directory of this program's data. -/
def programData (e : Environment) : Option Path := e.dataDir.map (·.join "inkboard")

/-- The directory of the documents. -/
def documentsIn (data : Path) : Path := data.join "documents"

/-- The file of the preferences. -/
def preferencesIn (data : Path) : Path := data.join "settings.json"

/-- The file of this program's configuration. -/
def configFile (e : Environment) : Option Path :=
  e.configDir.map fun dir => (dir.join "inkboard").join "config.toml"

end Environment

end Sketchbook
