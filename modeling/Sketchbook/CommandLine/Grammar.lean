import Sketchbook.Workspace.Command
/-!
The grammar of the command line: commands in groups, each with the options and the arguments that it
takes.
-/
namespace Sketchbook.CommandLine

/-- An option that takes a value. -/
inductive OptionName where
  | config
  | dataDir
  | file
  | name
  deriving DecidableEq, Repr

namespace OptionName

/-- How an option is written after its two dashes. -/
def word : OptionName → String
  | config => "config"
  | dataDir => "data-dir"
  | file => "file"
  | name => "name"

/-- Whether a value is good; the empty text is no path. -/
def accepts (o : OptionName) (value : String) : Bool := o = name || value ≠ ""

end OptionName

/-- A command by its name alone. -/
inductive Verb where
  | getDocument
  | putDocument
  | listDocuments
  | deleteDocument
  | newDocument
  | edit
  | getPreference
  | setPreference
  | clearPreference
  | listPreferences
  | addFont
  | listFonts
  deriving DecidableEq, Repr

/-- A group of commands. -/
inductive Group where
  | top
  | documents
  | preferences
  | fonts
  deriving DecidableEq, Repr

/-- Where the words of a command line have led. -/
inductive Place where
  | group (g : Group)
  | verb (v : Verb)
  /-- After the word that asks for help. -/
  | help
  deriving DecidableEq, Repr

/-- The words of a group and where they lead. -/
def Group.entries : Group → List (String × Place)
  | top =>
    [("doc", .group documents), ("new", .verb .newDocument), ("edit", .verb .edit),
      ("settings", .group preferences), ("fonts", .group fonts)]
  | documents =>
    [("get", .verb .getDocument), ("put", .verb .putDocument), ("list", .verb .listDocuments),
      ("delete", .verb .deleteDocument)]
  | preferences =>
    [("get", .verb .getPreference), ("set", .verb .setPreference),
      ("clear", .verb .clearPreference), ("list", .verb .listPreferences)]
  | fonts => [("add", .verb .addFont), ("list", .verb .listFonts)]

/-- The word that asks for help. -/
def helpWord : String := "help"

/-- Where a word leads from a place. In every group one can ask for help. -/
def Place.entry? (word : String) : Place → Option Place
  | group g => if word = helpWord then some help else g.entries.lookup word
  | _ => none

/-- The options that can stand at a place. -/
def Place.options : Place → List OptionName
  | verb .putDocument => [.config, .dataDir, .file]
  | verb .edit => [.config, .dataDir, .name]
  | _ => [.config, .dataDir]

/-- The most arguments that a command takes. -/
def Verb.capacity : Verb → Nat
  | listDocuments | listPreferences | listFonts => 0
  | setPreference => 2
  | _ => 1

/-- The command with the given options and arguments, unless arguments are missing. -/
def Verb.command? (value? : OptionName → Option String) : Verb → List String → Option Command
  | getDocument, id :: _ => some (.getDocument id)
  | putDocument, id :: _ => some (.putDocument id ((value? .file).map .mk))
  | listDocuments, _ => some .listDocuments
  | deleteDocument, id :: _ => some (.deleteDocument id)
  | newDocument, arguments => some (.newDocument (arguments.head?.getD Descriptor.untitled))
  | edit, arguments => some (.edit arguments.head? (value? .name))
  | getPreference, key :: _ => some (.getPreference key)
  | setPreference, key :: value :: _ => some (.setPreference key value)
  | clearPreference, key :: _ => some (.clearPreference key)
  | listPreferences, _ => some .listPreferences
  | addFont, name :: _ => some (.addFont name)
  | listFonts, _ => some .listFonts
  | _, _ => none

end Sketchbook.CommandLine
