import Sketchbook.Document.Uuid
import Sketchbook.Json.Printer
import Sketchbook.Json.Skip
import Sketchbook.Json.Typed
import Sketchbook.Store.Error
/-!
A document's id with the name that it is shown by, and both as JSON text. A descriptor is an object
with the members `id` and `name`; it is also read from a list of the two.
-/
namespace Sketchbook

open Json

namespace DocumentId

/-- The id as JSON text. -/
def toJson (id : DocumentId) : String := Json.compact (.text id.text)

/-- The failure for a text that is no document id. -/
def refusal (fault : IdFault) : Cause := .refused (StoreError.invalidId fault).message

/-- Reads an id from JSON text. -/
def read (text : String) : Except Json.Error DocumentId :=
  readAll
    (fun cs => do
      let (raw, rest) ← expectText cs
      match parse raw with
      | .ok id => .ok (id, rest)
      | .error fault => .error (.unplaced (refusal fault)))
    text

end DocumentId

/-- A document's id and the name that it is shown by. -/
structure Descriptor where
  id : DocumentId
  name : String
  deriving DecidableEq

namespace Descriptor

/-- The name of a document that nobody has named. -/
def untitled : String := "Untitled"

/-- A new document of the given name, its id drawn from a random number. -/
def named (bits : Nat) (name : String) : Descriptor := ⟨.generate bits, name⟩

/-- The descriptor as JSON text. -/
def toJson (d : Descriptor) : String :=
  Json.compact (.ofMembers [("id", .text d.id.text), ("name", .text d.name)])

/-- How a descriptor is called when something else was found. -/
def formName : String := "struct DocumentDescriptor"

/-- Reads an id. A text that is none is placed after the attempt to close what is around it. -/
def expectId (afterClose : List Char → List Char) (cs : List Char) :
    Except Failure (DocumentId × List Char) := do
  let (raw, rest) ← expectText cs
  match DocumentId.parse raw with
  | .ok id => .ok (id, rest)
  | .error fault => .error (.before (DocumentId.refusal fault) (afterClose rest))

/-- Where reading stands after the attempt to close a list. -/
def afterList (cs : List Char) : List Char :=
  match skipBlanks cs with
  | ']' :: rest => rest
  | ',' :: rest => skipBlanks rest
  | rest => rest

/-- Where reading stands after the attempt to close an object. -/
def afterObject (cs : List Char) : List Char :=
  match skipBlanks cs with
  | '\x7d' :: rest => rest
  | rest => rest

/-- Closes a list, all items of which have been read. -/
def closeList (cs : List Char) : Except Failure (List Char) :=
  match skipBlanks cs with
  | [] => .error (.before .endInList [])
  | ']' :: rest => .ok rest
  | ',' :: rest =>
    match skipBlanks rest with
    | ']' :: rest => .error (.next .trailingComma (']' :: rest))
    | rest => .error (.next .trailingCharacters rest)
  | rest => .error (.next .trailingCharacters rest)

/-- Reads a descriptor from a list of its id and its name, whose bracket has been read. -/
def expectPair (cs : List Char) : Except Failure (Descriptor × List Char) := do
  let missing (count : Nat) (rest : List Char) : Failure :=
    .before (.wrongLength count (formName ++ " with 2 elements")) rest
  match ← nextItem true cs with
  | .close rest => .error (missing 0 rest)
  | .entry rest =>
    let (id, rest) ← expectId afterList rest
    match ← nextItem false rest with
    | .close rest => .error (missing 1 rest)
    | .entry rest =>
      let (name, rest) ← expectText rest
      let rest ← closeList rest
      .ok (⟨id, name⟩, rest)

/-- Reads the members of a descriptor that are left; `id` and `name` have been read before if they
are given. Other members are skipped. -/
def readFields (first : Bool) (id : Option DocumentId) (name : Option String) :
    Nat → List Char → Except Failure (Descriptor × List Char)
  | 0, cs => .error (.before .tooDeep cs)
  | fuel + 1, cs => do
    match ← nextMember first cs with
    | .close rest =>
      match id, name with
      | some id, some name => .ok (⟨id, name⟩, rest)
      | none, _ => .error (.before (.missingMember "id") rest)
      | some _, none => .error (.before (.missingMember "name") rest)
    | .entry ("id", rest) =>
      if id.isSome then .error (.before (.repeatedMember "id") (afterObject rest))
      else
        let (id, rest) ← expectId afterObject (← readColon rest)
        readFields false (some id) name fuel rest
    | .entry ("name", rest) =>
      if name.isSome then .error (.before (.repeatedMember "name") (afterObject rest))
      else
        let (name, rest) ← expectText (← readColon rest)
        readFields false id (some name) fuel rest
    | .entry (_, rest) =>
      readFields false id name fuel (← skipValue (← readColon rest))

/-- Reads a descriptor. -/
def expect (cs : List Char) : Except Failure (Descriptor × List Char) :=
  match skipBlanks cs with
  | '[' :: rest => expectPair rest
  | '\x7b' :: rest => readFields true none none (stepsFor rest) rest
  | rest => .error (unwanted formName rest)

/-- Reads a descriptor from JSON text. -/
def read (text : String) : Except Json.Error Descriptor := readAll expect text

end Descriptor

end Sketchbook
