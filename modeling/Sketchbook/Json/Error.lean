import Sketchbook.Json.Cause
import Sketchbook.Text.ByteSize
/-!
Where a JSON text is refused. Lines are counted from one; a column is the number of bytes of its line
up to the place.
-/
namespace Sketchbook.Json

/-- A place in a text. -/
structure Position where
  line : Nat
  column : Nat
  deriving DecidableEq, Repr

/-- The place after the first `offset` bytes. -/
def Position.after (bytes : List UInt8) (offset : Nat) : Position :=
  let seen := bytes.take offset
  { line := seen.count 10 + 1
    column := (seen.reverse.takeWhile (· ≠ 10)).length }

/-- Why a JSON text or value is refused, and where, if it was read from a text. -/
structure Error where
  cause : Cause
  position : Option Position

def Error.message (e : Error) : String :=
  match e.position with
  | none => e.cause.message
  | some p => s!"{e.cause.message} at line {p.line} column {p.column}"

/-- The most that a line or a column amounts to in a message. -/
def placeLimit : Nat := 0xFFFFFFFFFFFFFFFF

/-- The number that reversed digits spell. -/
def reversedNumber? (digits : List Char) : Option Nat :=
  if digits.isEmpty then none
  else
    let n := digits.foldr (fun c n => n * 10 + (c.toNat - '0'.toNat)) 0
    if n ≤ placeLimit then some n else none

/-- Splits reversed text into the number at its end and what is before the words in front of the
number. -/
def splitNumber? (words : String) (reversed : List Char) : Option (Nat × List Char) := do
  let n ← reversedNumber? (reversed.takeWhile Char.isDigit)
  let before := reversed.dropWhile Char.isDigit
  let words := words.toList.reverse
  if words.isPrefixOf before then some (n, before.drop words.length) else none

/-- The error that somebody else's message tells of. If the message ends with a place, that is the
error's place, and line zero stands for none. -/
def Error.ofReason (reason : String) : Error :=
  let split : Option (Nat × Nat × List Char) := do
    let (column, before) ← splitNumber? " column " reason.toList.reverse
    let (line, before) ← splitNumber? " at line " before
    some (line, column, before)
  match split with
  | none => ⟨.refused reason, none⟩
  | some (line, column, before) =>
    ⟨.refused (String.ofList before.reverse), if line = 0 then none else some ⟨line, column⟩⟩

/-- The error of a cause that no text is at the bottom of. -/
def Error.ofCause : Cause → Error
  | .refused reason => .ofReason reason
  | cause => ⟨cause, none⟩

/-- A failure while a text is read. Its place is given by what had not been read yet and by how many
bytes of that belong to the fault; some failures are placed only later. -/
structure Failure where
  cause : Cause
  place : Option (List Char × Nat)

/-- The failure right before the rest. -/
def Failure.before (cause : Cause) (rest : List Char) : Failure := ⟨cause, some (rest, 0)⟩

/-- The failure at the next byte of the rest. -/
def Failure.next (cause : Cause) (rest : List Char) : Failure := ⟨cause, some (rest, 1)⟩

/-- A failure that is not placed yet. -/
def Failure.unplaced (cause : Cause) : Failure := ⟨cause, none⟩

/-- The error of a failure in the given text. -/
def Failure.toError (f : Failure) (text : String) : Error where
  cause := f.cause
  position := f.place.map fun (rest, ahead) =>
    let size := Text.byteSize rest
    Position.after text.toUTF8.data.toList (text.utf8ByteSize - size + min ahead size)

end Sketchbook.Json
