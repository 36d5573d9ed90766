import Sketchbook.Decimal.Notation
import Sketchbook.Environment
import Sketchbook.Notice
import Sketchbook.Toml.Reader
/-!
The configuration: where documents and preferences are, and how long an edit waits for its write. It
is read from a TOML file with three fields, none of which must be there.
-/
namespace Sketchbook

/-- Where documents and preferences are, and how long an edit waits for its write. -/
structure Config where
  /-- The directory of documents and preferences. -/
  dataDir : Option Path := none
  /-- How long no other edit must follow before one is written, in milliseconds. -/
  window : Nat := 200
  /-- The file of the preferences, if it is not in the directory of the data. -/
  preferencesFile : Option Path := none
  deriving DecidableEq, Inhabited

/-- Why the entries of a configuration file do not fit. -/
inductive ConfigFault where
  | unknownField (name : String)
  | wrongType (found : Toml.Value) (expected : String)
  | negative (value : Int)

/-- Why a configuration cannot be had. -/
inductive ConfigError where
  | cannotRead (path : Path) (error : DiskError)
  /-- The file is no TOML document. -/
  | malformed
  | misfit (fault : ConfigFault)

namespace Config

/-- The kind of a TOML value; a date counts as a table. -/
def describe : Toml.Value → String
  | .text value => s!"string {Text.quoted value}"
  | .integer value => s!"integer `{value}`"
  | .float value => s!"floating point `{Decimal.plainStyle.render value}`"
  | .boolean value => s!"boolean `{value}`"
  | .moment _ | .table _ _ => "map"
  | .list _ | .tables _ => "sequence"

/-- What a number of milliseconds is called. -/
def millisecondsForm : String := "u64"

/-- What a path is called. -/
def pathForm : String := "path string"

end Config

def ConfigFault.message : ConfigFault → String
  | .unknownField name =>
    s!"unknown field `{name}`, expected one of `data_dir`, `debounce_ms`, `settings_file`"
  | .wrongType found expected => s!"invalid type: {Config.describe found}, expected {expected}"
  | .negative value => s!"invalid value: integer `{value}`, expected {Config.millisecondsForm}"

def ConfigError.message : ConfigError → String
  | .cannotRead path error => s!"Failed to read config {path}: {error}"
  | .malformed => "Invalid config: TOML parse error"
  | .misfit fault => s!"Invalid config: TOML parse error: {fault.message}"

/-- What is behind an error. -/
def ConfigError.causes : ConfigError → List String
  | .cannotRead _ error => [error.message]
  | .malformed => ["TOML parse error"]
  | .misfit fault => [s!"TOML parse error: {fault.message}"]

namespace Config

/-- Takes a value as a path. -/
def asPath : Toml.Value → Except ConfigFault Path
  | .text value => .ok ⟨value⟩
  | other => .error (.wrongType other pathForm)

/-- Takes a value as a number of milliseconds. -/
def asMilliseconds : Toml.Value → Except ConfigFault Nat
  | .integer value => if 0 ≤ value then .ok value.toNat else .error (.negative value)
  | other => .error (.wrongType other millisecondsForm)

/-- Sets the field of a name. -/
def setField (c : Config) (name : String) (value : Toml.Value) : Except ConfigFault Config :=
  match name with
  | "data_dir" => return { c with dataDir := some (← asPath value) }
  | "debounce_ms" => return { c with window := ← asMilliseconds value }
  | "settings_file" => return { c with preferencesFile := some (← asPath value) }
  | _ => .error (.unknownField name)

/-- Reads a configuration. Its entries are looked at in order, up to the first that does not fit. -/
def ofToml (text : String) : Except ConfigError Config :=
  match Toml.read? text with
  | none => .error .malformed
  | some entries =>
    let fields : Except ConfigFault Config :=
      entries.foldlM (fun (c : Config) entry => c.setField entry.1 entry.2) {}
    fields.mapError .misfit

/-- Reads the configuration in a file. -/
def load (disk : Disk) (path : Path) : Except ConfigError Config :=
  match disk.readText path with
  | .ok text => ofToml text
  | .error e => .error (.cannotRead path e)

/-- Reads the configuration in the given file, or else in the user's file if there is one. -/
def discover (env : Environment) (disk : Disk) (path : Option Path) :
    Noted (Except ConfigError Config) :=
  match path, env.configFile with
  | some path, _ => pure (load disk path)
  | none, some path =>
    if disk.isFile path then do
      note (.configUsed path)
      return load disk path
    else pure (.ok {})
  | none, none => pure (.ok {})

/-- The directory of documents and preferences. -/
def resolvedDataDir (c : Config) (env : Environment) : Option Path :=
  c.dataDir.or env.programData

/-- The directory of the documents. -/
def documentsDir (c : Config) (env : Environment) : Option Path :=
  (c.resolvedDataDir env).map Environment.documentsIn

/-- The file of the preferences. -/
def preferencesPath (c : Config) (env : Environment) : Option Path :=
  c.preferencesFile.or ((c.resolvedDataDir env).map Environment.preferencesIn)

end Config

end Sketchbook
