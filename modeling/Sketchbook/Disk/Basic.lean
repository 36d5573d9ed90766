import Sketchbook.Disk.Path
import Sketchbook.SortedMap
/-!
A disk: a tree of directories and files, kept as a map from locations to what stands there. Every
operation says which error it ends with; one that fails leaves the disk as it was, but for the
directories that `createDirectories` made on the way.
-/
namespace Sketchbook

/-- The names from the root of a disk down to a place on it. -/
abbrev Location := List String

/-- What stands at a location. -/
inductive Node where
  | directory
  | file (content : ByteArray)

namespace Node

/-- Whether two nodes are the same, down to the last byte. -/
def same : Node → Node → Bool
  | directory, directory => true
  | file a, file b => a.data.toList == b.data.toList
  | _, _ => false

end Node

/-- Why an operation on a disk failed. -/
inductive DiskError where
  | notFound
  | alreadyThere
  | notDirectory
  | isDirectory
  | nameTooLong
  /-- A NUL stands in the path. -/
  | nulInPath
  | notUtf8
  deriving DecidableEq, Repr

def DiskError.message : DiskError → String
  | .notFound => "No such file or directory (os error 2)"
  | .alreadyThere => "File exists (os error 17)"
  | .notDirectory => "Not a directory (os error 20)"
  | .isDirectory => "Is a directory (os error 21)"
  | .nameTooLong => "File name too long (os error 36)"
  | .nulInPath => "file name contained an unexpected NUL byte"
  | .notUtf8 => "stream did not contain valid UTF-8"

instance : ToString DiskError := ⟨DiskError.message⟩

/-- The text of a file, if its bytes are UTF-8. -/
def decodeText (content : ByteArray) : Except DiskError String :=
  match String.fromUTF8? content with
  | some text => .ok text
  | none => .error .notUtf8

/-- A tree of files, and the directory from which relative paths are seen. The root is always a
directory and has no entry. -/
structure Disk where
  nodes : SortedMap Location Node
  workDir : Location

namespace Disk

/-- A disk with nothing but the working directory and the directories around it. -/
def blank (workDir : Location) : Disk where
  nodes := .ofList ((List.range workDir.length).map fun n => (workDir.take (n + 1), .directory))
  workDir := workDir

/-- What stands at a location. -/
def node? (d : Disk) (place : Location) : Option Node :=
  if place = [] then some .directory else d.nodes.get? place

/-- The most bytes that a name may have. -/
def nameLimit : Nat := 255

/-- The location that a name leads to from another location, which must be a directory. -/
def step (d : Disk) (origin : Location) (name : String) : Except DiskError Location :=
  match d.node? origin with
  | none => .error .notFound
  | some (.file _) => .error .notDirectory
  | some .directory =>
    if name = "." then .ok origin
    else if name = ".." then .ok origin.dropLast
    else if nameLimit < name.utf8ByteSize then .error .nameTooLong
    else .ok (origin ++ [name])

/-- The most bytes that a path may have. -/
def pathLimit : Nat := 4095

/-- The location that a path names; nothing need stand there. -/
def locate (d : Disk) (p : Path) : Except DiskError Location :=
  if p.text.isEmpty then .error .notFound
  else if p.text.contains '\x00' then .error .nulInPath
  else if pathLimit < p.text.utf8ByteSize then .error .nameTooLong
  else p.names.foldlM d.step (if p.isAbsolute then [] else d.workDir)

/-- What a path names. -/
def lookup (d : Disk) (p : Path) : Except DiskError Node := do
  match d.node? (← d.locate p) with
  | none => .error .notFound
  | some (.file content) => if p.endsInSlash then .error .notDirectory else .ok (.file content)
  | some .directory => .ok .directory

def has (d : Disk) (p : Path) : Bool := (d.lookup p).isOk

def isDirectory (d : Disk) (p : Path) : Bool :=
  match d.lookup p with
  | .ok .directory => true
  | _ => false

def isFile (d : Disk) (p : Path) : Bool :=
  match d.lookup p with
  | .ok (.file _) => true
  | _ => false

/-- The bytes of a file. -/
def readBytes (d : Disk) (p : Path) : Except DiskError ByteArray := do
  match ← d.lookup p with
  | .file content => .ok content
  | .directory => .error .isDirectory

/-- The text of a file. -/
def readText (d : Disk) (p : Path) : Except DiskError String := do
  decodeText (← d.readBytes p)

/-- Writes a file, in place of one that may be there. -/
def write (d : Disk) (p : Path) (content : ByteArray) : Except DiskError Disk := do
  let place ← d.locate p
  match d.node? place with
  | some .directory => .error .isDirectory
  | _ =>
    if p.endsInSlash then .error .isDirectory
    else .ok { d with nodes := d.nodes.insert place (.file content) }

/-- Removes a file. -/
def remove (d : Disk) (p : Path) : Except DiskError Disk := do
  match ← d.lookup p with
  | .directory => .error .isDirectory
  | .file _ => .ok { d with nodes := d.nodes.erase (← d.locate p) }

/-- Removes a file, or a directory with all that is in it. -/
def removeAll (d : Disk) (p : Path) : Except DiskError Disk := do
  let place ← d.locate p
  let _ ← d.lookup p
  .ok { d with nodes := d.nodes.filterKeys fun other => !place.isPrefixOf other }

/-- The names in a directory, in ascending order. -/
def list (d : Disk) (p : Path) : Except DiskError (List String) := do
  match ← d.lookup p with
  | .file _ => .error .notDirectory
  | .directory =>
    let place ← d.locate p
    .ok <| d.nodes.keys.filterMap fun other =>
      match other.getLast? with
      | some name => if other.dropLast = place then some name else none
      | none => none

/-- Creates a directory in one that is there. -/
def createDirectory (d : Disk) (p : Path) : Except DiskError Disk := do
  let place ← d.locate p
  match d.node? place with
  | some _ => .error .alreadyThere
  | none => .ok { d with nodes := d.nodes.insert place .directory }

/-- Creates the first path's directory after those around it. A path stands before the one it is
in. -/
def createChain (d : Disk) : List Path → Except DiskError Unit × Disk
  | [] => (.ok (), d)
  | p :: outer =>
    if p.text.isEmpty then (.ok (), d)
    else
      match d.createDirectory p with
      | .ok made => (.ok (), made)
      | .error .notFound =>
        match createChain d outer with
        | (.error e, d) => (.error e, d)
        | (.ok (), d) =>
          match d.createDirectory p with
          | .ok made => (.ok (), made)
          | .error e => if d.isDirectory p then (.ok (), d) else (.error e, d)
      | .error e => if d.isDirectory p then (.ok (), d) else (.error e, d)

/-- Creates a directory and those around it as far as they are missing. -/
def createDirectories (d : Disk) (p : Path) : Except DiskError Unit × Disk :=
  d.createChain p.ancestors

end Disk

end Sketchbook
