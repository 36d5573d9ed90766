import Sketchbook.CommandLine.Usage
/-!
A run of the program: a command line is read, the workspace of the configuration is opened, and the
command is carried out. An error is shown with its causes and ends the run with exit code 1; a
command line that stands for no command ends it with exit code 2.
-/
namespace Sketchbook.CommandLine

/-- What a run leaves behind. -/
structure RunReport where
  exitCode : Nat
  output : String
  /-- What is written to the standard error. -/
  complaint : String
  disk : Disk

/-- The run that only tells why a command line stands for no command. -/
def refuse (disk : Disk) (r : Refusal) : RunReport :=
  if r.isAnswer then ⟨0, r.text, "", disk⟩ else ⟨2, "", r.text, disk⟩

/-- The exit code and the message for a result. -/
def conclude (output : String) (result : Except CommandError Unit) (disk : Disk) : RunReport :=
  match result with
  | .ok () => ⟨0, output, "", disk⟩
  | .error e => ⟨1, output, showChain e.chain, disk⟩

/-- Opens the workspace that a command line asks for. -/
def Invocation.workspace (i : Invocation) (env : Environment) (disk : Disk) :
    Noted (Except CommandError Workspace × Disk) := do
  match ← Config.discover env disk i.config with
  | .error e => return (.error (.badConfig e), disk)
  | .ok config => return Workspace.open { config with dataDir := i.dataDir.or config.dataDir } env disk

/-- Runs the program. The id of a new document is drawn from a random number. -/
def run (env : Environment) (disk : Disk) (bits : Nat) (words : List String) (input : Input) :
    Noted RunReport :=
  match read words with
  | .error refusal => pure (refuse disk refusal)
  | .ok invocation => do
    match ← invocation.workspace env disk with
    | (.error e, disk) => return conclude "" (.error e) disk
    | (.ok w, _) =>
      let (report, w) ← w.perform bits input invocation.command
      return conclude report.text report.result w.disk

end Sketchbook.CommandLine
