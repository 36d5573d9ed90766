import Sketchbook.CommandLine.Run
import Sketchbook.Disk.Changes
/-!
The program. The files that a command line can reach are taken over into a disk, and what the command
changed there is written back; an editing session is written back after every line.
-/
namespace Sketchbook.Program

/-- How a location is called outside. -/
def systemPath (place : Location) : String := "/" ++ "/".intercalate place

/-- What stands at a location outside. -/
def nodeAt? (place : Location) : IO (Option Node) := do
  let path := (← IO.currentDir) / systemPath place
  if ← path.isDir then return some .directory
  else if ← path.pathExists then return some (.file (← IO.FS.readBinFile path))
  else return none

/-- The names in a directory outside. -/
def namesIn (place : Location) : IO (List String) := do
  let entries ← ((← IO.currentDir) / systemPath place).readDir
  return entries.toList.map (·.fileName)

/-- Takes over what stands at a location. -/
def gatherNode (d : Disk) (place : Location) : IO Disk := do
  match ← nodeAt? place with
  | some node => return { d with nodes := d.nodes.insert place node }
  | none => return d

/-- Takes over what stands at a path, what is around it, and what is in it. -/
def gather (d : Disk) (p : Path) : IO Disk := do
  let origin := if p.isAbsolute then [] else d.workDir
  let places := (List.range (origin.length + p.names.length)).map fun n =>
    (origin ++ p.names).take (n + 1)
  let d ← places.foldlM gatherNode d
  match d.lookup p with
  | .ok .directory =>
    let place := origin ++ p.names
    (← namesIn place).foldlM (fun d name => gatherNode d (place ++ [name])) d
  | _ => return d

/-- Writes back what changed. -/
def save (old new : Disk) : IO Unit := do
  for (place, node) in old.changes new do
    match node with
    | some .directory => IO.FS.createDirAll (systemPath place)
    | some (.file content) => IO.FS.writeBinFile (systemPath place) content
    | none => IO.FS.removeFile (systemPath place)

/-- The disk as far as a command line can reach it. -/
def reach (env : Environment) (i : CommandLine.Invocation) : IO Disk := do
  let here : Path := ⟨(← IO.currentDir).toString⟩
  let disk ← gather (.blank here.names) here
  let disk ← (i.config.or env.configFile).toList.foldlM gather disk
  let file : List Path :=
    match i.command with
    | .putDocument _ (some file) => [file]
    | _ => []
  match (Config.discover env disk i.config).value with
  | .error _ => return disk
  | .ok config =>
    let config := { config with dataDir := i.dataDir.or config.dataDir }
    ((config.documentsDir env).toList ++ (config.preferencesPath env).toList ++ file).foldlM
      gather disk

/-- Reads bytes up to the end of the input or to the given byte, which is read as well. -/
partial def readUpTo (input : IO.FS.Stream) (stop : Option UInt8) (seen : List UInt8) :
    IO (List UInt8) := do
  match (← input.read 1).data.toList with
  | [] => return seen.reverse
  | b :: _ =>
    if some b = stop then return (b :: seen).reverse
    else readUpTo input stop (b :: seen)

/-- A random number of 128 bits. -/
def randomBits : IO Nat := do
  return (← IO.getRandomBytes 16).data.foldl (fun n b => n * 256 + b.toNat) 0

def environment : IO Environment := do
  return { home := ← IO.getEnv "HOME", dataHome := ← IO.getEnv "XDG_DATA_HOME",
           configHome := ← IO.getEnv "XDG_CONFIG_HOME" }

/-- Shows an error. -/
def complain (e : CommandError) : IO UInt32 := do
  IO.eprint (showChain e.chain)
  return 1

/-- Writes back what a step of a session changed. -/
def step (before : Disk) (s : Session DirectoryRecords) : IO Disk := do
  let after := s.editor.library.records.disk
  save before after
  return after

/-- Takes lines of the input until it ends. Tells whether all of them were text. -/
partial def takeLines (input : IO.FS.Stream) (disk : Disk) (s : Session DirectoryRecords) :
    IO (Except DiskError Unit × Disk × Session DirectoryRecords) := do
  let line ← readUpTo input (some Text.newline) []
  if line.isEmpty then return (.ok (), disk, s)
  match decodeText ⟨line.toArray⟩ with
  | .error e => return (.error e, disk, s)
  | .ok text =>
    let s := (s.takeLine text (← IO.monoMsNow)).value
    takeLines input (← step disk s) s

/-- Waits for the edits that are left and writes them. -/
partial def finish (disk : Disk) (s : Session DirectoryRecords) : IO Unit := do
  match s.editor.waiting.nextDeadline with
  | none => return
  | some deadline =>
    IO.sleep (deadline - (← IO.monoMsNow)).toUInt32
    let s := (s.poll (← IO.monoMsNow)).value
    finish (← step disk s) s

/-- An editing session on the standard input. -/
def edit (w : Workspace) (disk : Disk) (id name : Option String) : IO UInt32 := do
  match (w.chooseDocument id name).value with
  | (.error e, w) => do
    save disk w.disk
    complain e
  | (.ok d, w) =>
    save disk w.disk
    let s := (Session.start w.editor d).value
    IO.println s.content.toText
    match ← takeLines (← IO.getStdin) w.disk s with
    | (.error e, _, _) => complain (.cannotReadInput e)
    | (.ok (), disk, s) => do
      finish disk s
      return 0

/-- Runs a command line. -/
def run (words : List String) : IO UInt32 := do
  let env ← environment
  let disk ←
    match CommandLine.read words with
    | .ok i => reach env i
    | .error _ => pure (.blank [])
  let report (input : ByteArray) : IO UInt32 := do
    let r := (CommandLine.run env disk (← randomBits) words (.atOnce input)).value
    save disk r.disk
    IO.print r.output
    IO.eprint r.complaint
    return r.exitCode.toUInt32
  match CommandLine.read words with
  | .error _ => report .empty
  | .ok i =>
    match i.command, (i.workspace env disk).value with
    | .edit id name, (.ok w, _) => edit w disk id name
    | .putDocument _ none, (.ok _, _) =>
      report ⟨(← readUpTo (← IO.getStdin) none []).toArray⟩
    | _, _ => report .empty

end Sketchbook.Program

/-- Runs the program with the words of its command line. -/
def main (words : List String) : IO UInt32 := Sketchbook.Program.run words
