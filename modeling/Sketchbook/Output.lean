/-!
What lines are printed to. An output takes them one after the other, up to the first that it refuses.
-/
namespace Sketchbook

/-- Why a line is refused. -/
inductive OutputError where
  /-- There is no room left where the output goes. -/
  | full
  /-- Nobody reads the output any more. -/
  | closed
  deriving DecidableEq, Repr

def OutputError.message : OutputError → String
  | .full => "No space left on device (os error 28)"
  | .closed => "Broken pipe (os error 32)"

/-- What lines are printed to. -/
inductive Output where
  | endless
  /-- An output that takes some lines, but none after these. -/
  | limited (room : Nat) (error : OutputError)

namespace Output

/-- Why not even one line is taken, if that is so. -/
def refusal? : Output → Option OutputError
  | .limited 0 error => some error
  | _ => none

/-- Prints lines up to the first that is refused. Tells which were printed. -/
def print : Output → List String → List String × Except OutputError Unit
  | .endless, lines => (lines, .ok ())
  | .limited room error, lines =>
    if lines.length ≤ room then (lines, .ok ()) else (lines.take room, .error error)

variable {output : Output}

@[simp] theorem print_nil (output : Output) : output.print [] = ([], .ok ()) := by
  cases output with
  | endless => rfl
  | limited room error => simp [print]

theorem print_line_of_taken (taken : output.refusal? = none) (line : String) :
    output.print [line] = ([line], .ok ()) := by
  cases output with
  | endless => rfl
  | limited room error =>
    cases room with
    | zero => cases taken
    | succ room => simp [print]

theorem print_line_of_refused {error : OutputError} (refused : output.refusal? = some error)
    (line : String) : output.print [line] = ([], .error error) := by
  cases output with
  | endless => cases refused
  | limited room reason =>
    cases room with
    | zero =>
      obtain rfl := Option.some.inj refused
      rfl
    | succ room => cases refused

end Output

end Sketchbook
