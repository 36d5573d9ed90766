import Sketchbook.Workspace.Documents
import Sketchbook.Workspace.Preferences
/-!
Commands: what a user can ask of a workspace in one line, and what is printed for it.
-/
namespace Sketchbook

/-- What is asked of a workspace. -/
inductive Command where
  | getDocument (id : String)
  | putDocument (id : String) (file : Option Path)
  | listDocuments
  | deleteDocument (id : String)
  | newDocument (name : String)
  | edit (id name : Option String)
  | getPreference (key : String)
  | setPreference (key value : String)
  | clearPreference (key : String)
  | listPreferences
  | addFont (name : String)
  | listFonts
  deriving DecidableEq

/-- The input of a command: its bytes, and the time at which each of its lines comes. -/
structure Input where
  bytes : ByteArray
  time : Nat → Nat

namespace Input

/-- An input all lines of which are there at the start. -/
def atOnce (bytes : ByteArray) : Input := ⟨bytes, fun _ => 0⟩

def lines (i : Input) : List TimedLine :=
  (Text.lines i.bytes.data.toList).mapIdx fun n bytes => ⟨i.time n, bytes⟩

end Input

/-- The lines that a command printed, and whether it failed. -/
structure CommandReport where
  printed : List String
  result : Except CommandError Unit

namespace CommandReport

/-- A report that prints lines. A line that is refused is why the command fails. -/
def ofLines (output : Output) (lines : List String) : CommandReport :=
  let (printed, result) := output.print lines
  ⟨printed, result.mapError .cannotPrint⟩

/-- A report that prints what a result stands for. -/
def ofExcept {α : Type} (output : Output) (show_ : α → List String) :
    Except CommandError α → CommandReport
  | .ok a => ofLines output (show_ a)
  | .error e => ⟨[], .error e⟩

/-- A command that prints nothing ends as it does whatever its output is. -/
theorem ofExcept_silent (output : Output) (result : Except CommandError Unit) :
    ofExcept output (fun _ => []) result = ⟨[], result⟩ := by
  cases result with
  | error e => rfl
  | ok _ =>
    rw [ofExcept, ofLines, Output.print_nil]
    rfl

/-- The text that was printed. -/
def text (r : CommandReport) : String := String.join (r.printed.map (· ++ "\n"))

end CommandReport

namespace Workspace

/-- What is printed for a command that only looks at a workspace or only changes it. -/
private def reportOf {α : Type} (output : Output) (show_ : α → List String)
    (outcome : Except CommandError α × Workspace) : CommandReport × Workspace :=
  (.ofExcept output show_ outcome.1, outcome.2)

/-- Carries out a command. What it prints comes last, except for an edit, which prints first. The id of
a new document is drawn from a random number. -/
def perform (w : Workspace) (bits : Nat) (input : Input) (c : Command) (output : Output := .endless) :
    Noted (CommandReport × Workspace) :=
  match c with
  | .getDocument id => pure (.ofExcept output (fun c => [c.toText]) (w.getDocument id), w)
  | .putDocument id file => do
    return reportOf output (fun _ => []) (← w.putDocument id file input.bytes)
  | .listDocuments => do
    return (.ofExcept output (fun ids => ids.map DocumentId.text) (← w.listDocuments), w)
  | .deleteDocument id => do return reportOf output (fun _ => []) (← w.deleteDocument id)
  | .newDocument name => do
    return reportOf output (fun (d : Descriptor) => [d.id.text]) (← w.newDocument bits name)
  | .edit id name => do
    let (report, w) ← w.edit id name input.lines output
    return (⟨report.printed, report.result.map fun _ => ()⟩, w)
  | .getPreference key => pure (.ofExcept output Option.toList (w.getPreference key), w)
  | .setPreference key value => do
    return reportOf output (fun _ => []) (← w.setPreference key value)
  | .clearPreference key => do return reportOf output (fun _ => []) (← w.clearPreference key)
  | .listPreferences =>
    pure (.ofLines output (w.listPreferences.map fun (key, value) => s!"{key.name} = {value}"), w)
  | .addFont name => do return reportOf output (fun _ => []) (← w.addFont name)
  | .listFonts => pure (.ofLines output w.listFonts, w)

end Workspace

end Sketchbook
