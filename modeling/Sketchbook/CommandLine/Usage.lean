import Sketchbook.CommandLine.Reader
/-!
What the program tells about itself and about command lines that it does not take.
-/
namespace Sketchbook.CommandLine

/-- The name of the program. -/
def programName : String := "inkboard"

/-- The version of the program. -/
def version : String := "0.1.0"

/-- What follows the name of a command, as it is shown. -/
def Verb.form : Verb → String
  | getDocument => " <ID>"
  | putDocument => " [--file <FILE>] <ID>"
  | listDocuments => ""
  | deleteDocument => " <ID>"
  | newDocument => " [NAME]"
  | edit => " [--name <NAME>] [ID]"
  | getPreference => " <KEY>"
  | setPreference => " <KEY> <VALUE>"
  | clearPreference => " <KEY>"
  | listPreferences => ""
  | addFont => " <NAME>"
  | listFonts => ""

/-- What a command is for. -/
def Verb.purpose : Verb → String
  | getDocument => "Print a document's content (the empty scene if never saved)"
  | putDocument => "Store JSON content for a document, from a file or stdin"
  | listDocuments => "List stored document ids"
  | deleteDocument => "Delete a stored document"
  | newDocument => "Create an empty document and make it current"
  | edit => "Edit a document: every stdin line is a new JSON scene"
  | getPreference => "Print one setting"
  | setPreference => "Overwrite one setting"
  | clearPreference => "Remove one setting"
  | listPreferences => "Print every setting"
  | addFont => "Add a font unless it is already listed"
  | listFonts => "Print the custom font list"

/-- The commands of a group, each on two lines. -/
def verbLines (path : String) (entries : List (String × Place)) : List String :=
  entries.flatMap fun (word, place) =>
    match place with
    | .verb v => [s!"  {path}{word}{v.form}", s!"      {v.purpose}"]
    | _ => []

/-- All commands, those outside groups first. -/
def commandLines : List String :=
  verbLines "" Group.top.entries ++
    Group.top.entries.flatMap fun (word, place) =>
      match place with
      | .group g => verbLines s!"{word} " g.entries
      | _ => []

/-- The help text. -/
def helpText : String :=
  "\n".intercalate
    (["Manage Inkboard documents and settings", "",
      s!"Usage: {programName} [OPTIONS] <COMMAND>", "", "Commands:"] ++ commandLines ++
      ["", "Options:",
        "      --config <CONFIG>      Config file (defaults to the per-user config.toml when present)",
        "      --data-dir <DATA_DIR>  Data directory, overriding the config file",
        "  -h, --help                 Print help",
        "  -V, --version              Print version", ""])

/-- What is shown for a command line that stands for no command. -/
def Refusal.text : Refusal → String
  | .help | .bareGroup => helpText
  | .version => s!"{programName} {CommandLine.version}\n"
  | .missingCommand => "error: a command is missing\n"
  | .missingArgument => "error: an argument is missing\n"
  | .unknownCommand => "error: there is no such command\n"
  | .unknownArgument => "error: there is an argument that is not expected\n"
  | .badValue => "error: an option has no value\n"
  | .repeatedOption => "error: an option is given twice\n"
  | .unwantedValue => "error: an option takes no value\n"

end Sketchbook.CommandLine
