import Sketchbook.Autosave.Editor
import Sketchbook.Text.Blank
import Sketchbook.Text.Lines
/-!
Editing sessions: a document is opened, and then each line of input that is JSON is one edit. Before
a line counts, the edits that are due are written; when the input ends, the session waits until
nothing is left to write. A line that is not text ends the session at once, and edits that wait then
are not written.
-/
namespace Sketchbook

/-- A line of input and the time at which it came. -/
structure TimedLine where
  time : Nat
  bytes : List UInt8

/-- The text of a line, if its bytes are UTF-8. -/
def TimedLine.text (line : TimedLine) : Except DiskError String := decodeText ⟨line.bytes.toArray⟩

/-- What a session has counted. -/
structure SessionSummary where
  edits : Nat := 0
  writes : Nat := 0
  failedWrites : Nat := 0
  deriving DecidableEq, Repr

namespace SessionSummary

/-- Counts the outcome of a write. -/
def countWrite (s : SessionSummary) (o : WriteOutcome) : SessionSummary :=
  match o.result with
  | .ok () => { s with writes := s.writes + 1 }
  | .error _ => { s with failedWrites := s.failedWrites + 1 }

end SessionSummary

/-- A session that goes on: its editor, and what it has counted. -/
structure Session (σ : Type) where
  editor : Editor σ
  summary : SessionSummary := {}

namespace Session

variable {σ : Type} [Records σ]

/-- Opens a document for a session. -/
def start (e : Editor σ) (d : Descriptor) : Noted (Session σ) := do
  return { editor := ← e.open d }

/-- What the user sees. -/
def content (s : Session σ) : Content := s.editor.content.getD .emptyScene

/-- Writes the edits that are due. -/
def poll (s : Session σ) (now : Nat) : Noted (Session σ) := do
  let (outcomes, editor) ← s.editor.poll now
  return ⟨editor, outcomes.foldl .countWrite s.summary⟩

/-- Takes a line of text at a time. Blank lines and lines that are not JSON change nothing. -/
def takeLine (s : Session σ) (text : String) (now : Nat) : Noted (Session σ) := do
  let s ← s.poll now
  match Json.read (Text.trim text) with
  | .error _ => return s
  | .ok value =>
    let (taken, editor) ← s.editor.change (.ofJson value) now
    return ⟨editor, if taken then { s.summary with edits := s.summary.edits + 1 } else s.summary⟩

/-- Takes lines one after the other, up to the first that is not text. -/
def takeLines (s : Session σ) : List TimedLine → Noted (Except DiskError Unit × Session σ)
  | [] => pure (.ok (), s)
  | line :: rest =>
    match line.text with
    | .error error => pure (.error error, s)
    | .ok text => do
      let s ← s.takeLine text line.time
      s.takeLines rest

/-- Waits for the next edit that is due and writes it, at most so many times. A wait may end late,
by `late n` when `n` more may follow. -/
def drain (s : Session σ) (late : Nat → Nat) (now : Nat) : Nat → Noted (Session σ)
  | 0 => pure s
  | polls + 1 =>
    match s.editor.waiting.nextDeadline with
    | none => pure s
    | some deadline => do
      let time := max now deadline + late polls
      let s ← s.poll time
      s.drain late time polls

/-- Waits until nothing is left to write. Each poll writes an edit, so there are no more polls than
edits. -/
def finish (s : Session σ) (late : Nat → Nat) (now : Nat) : Noted (Session σ) :=
  s.drain late now s.editor.waiting.size

end Session

/-- How a session ended: the line that it printed, its summary unless the input went bad, and the
editor as it was left. -/
structure SessionReport (σ : Type) where
  printed : String
  result : Except DiskError SessionSummary
  editor : Editor σ

namespace Session

variable {σ : Type} [Records σ]

/-- The time at which the last line of an input came. -/
def lastTime (input : List TimedLine) : Nat := (input.getLast?.map TimedLine.time).getD 0

/-- Edits a document with the lines of an input; if all of them are text, the session goes on to
write what waits when the input has ended. -/
def run (e : Editor σ) (d : Descriptor) (input : List TimedLine) (ended : Nat := lastTime input)
    (late : Nat → Nat := fun _ => 0) : Noted (SessionReport σ) := do
  let opened ← start e d
  let printed := opened.content.toText
  match ← opened.takeLines input with
  | (.error error, s) => return ⟨printed, .error error, s.editor⟩
  | (.ok (), s) =>
    let s ← s.finish late ended
    return ⟨printed, .ok s.summary, s.editor⟩

end Session

end Sketchbook
