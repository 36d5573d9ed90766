import Sketchbook.Config
import Sketchbook.Output
import Sketchbook.Text.Separated
/-!
Why a command on a workspace fails, as a chain of messages: what could not be done comes first, and
each further message is the cause of the one before.
-/
namespace Sketchbook

/-- Why a command fails. -/
inductive CommandError where
  | badConfig (error : ConfigError)
  | noDataDir
  | noPreferencesFile
  | cannotOpenLibrary (directory : Path) (error : StoreError)
  | cannotOpenPreferences (file : Path) (error : StoreError)
  | invalidId (raw : String) (fault : IdFault)
  | cannotReadDocument (id : DocumentId) (error : StoreError)
  | cannotWriteDocument (id : DocumentId) (error : StoreError)
  | cannotReadFile (path : Path) (error : DiskError)
  | cannotReadInput (error : DiskError)
  | malformedContent (error : StoreError)
  | noSuchDocument (id : DocumentId)
  | noCurrentDocument
  | noSwitch (value : String)
  | cannotPrint (error : OutputError)
  | store (error : StoreError)

namespace CommandError

/-- The messages of an error, the outermost first. -/
def chain : CommandError → List String
  | .badConfig error => error.message :: error.causes
  | .noDataDir => ["could not determine a data directory; pass --data-dir"]
  | .noPreferencesFile => ["could not determine a settings file; pass --data-dir"]
  | .cannotOpenLibrary directory error => [s!"opening document store {directory}", error.message]
  | .cannotOpenPreferences file error => [s!"opening settings {file}", error.message]
  | .invalidId raw fault =>
    [s!"invalid document id {Text.quoted raw}", (StoreError.invalidId fault).message]
  | .cannotReadDocument id error => [s!"reading document {id}", error.message]
  | .cannotWriteDocument id error => [s!"writing document {id}", error.message]
  | .cannotReadFile path error => [s!"reading {path}", error.message]
  | .cannotReadInput error => ["reading stdin", error.message]
  | .malformedContent error => ["content is not valid JSON", error.message]
  | .noSuchDocument id => [s!"no stored document {id}"]
  | .noCurrentDocument => ["no document id given and no current document"]
  | .noSwitch value => [s!"font-switch expects true or false, got {Text.quoted value}"]
  | .cannotPrint error => [error.message]
  | .store error => [error.message]

end CommandError

/-- The blanks before a line of a cause that follows its first. -/
private def hangingIndent (numbered : Bool) : String := if numbered then "       " else "    "

/-- A cause as it is shown, with its number if there are several. -/
def showCause (number : Option Nat) (message : String) : String :=
  let start :=
    match number with
    | some n => "".pushn ' ' (5 - (toString n).length) ++ s!"{n}: "
    | none => "    "
  start ++ ("\n" ++ hangingIndent number.isSome).intercalate (Text.split '\n' message)

/-- A chain of messages as it is shown to a user. -/
def showChain : List String → String
  | [] => ""
  | [outer] => s!"Error: {outer}\n"
  | [outer, cause] => s!"Error: {outer}\n\nCaused by:\n{showCause none cause}\n"
  | outer :: causes =>
    let shown := causes.zipIdx.map fun (cause, n) => showCause (some n) cause ++ "\n"
    s!"Error: {outer}\n\nCaused by:\n" ++ String.join shown

end Sketchbook
