/-!
A queue that holds each payload back until its key has been quiet for a window. A payload that is
followed by another of its key within the window is superseded and never comes out; one whose window
had passed before the next came is kept until the next collection.

Times are in milliseconds and are given by the caller with every call.
-/
namespace Sketchbook

/-- A payload and the time at which its window has passed. -/
structure Waiting (β : Type) where
  deadline : Nat
  payload : β
  deriving DecidableEq, Repr

/-- A queue of payloads under keys. -/
structure QuietQueue (κ β : Type) where
  /-- How long a key must be quiet. -/
  window : Nat
  /-- The last payload of each key, under its key. -/
  latest : List (κ × Waiting β) := []
  /-- Payloads that were followed by others after their window had passed, in order. -/
  elapsed : List (κ × Waiting β) := []
  deriving DecidableEq, Repr

namespace QuietQueue

variable {κ β : Type} [DecidableEq κ]

/-- The entries of other keys. -/
def without (key : κ) (entries : List (κ × Waiting β)) : List (κ × Waiting β) :=
  entries.filter fun entry => entry.1 ≠ key

/-- The payload of an entry under its key. -/
def payloadOf (entry : κ × Waiting β) : κ × β := (entry.1, entry.2.payload)

/-- The last payload of a key that is still waiting. -/
def latest? (q : QuietQueue κ β) (key : κ) : Option (Waiting β) :=
  (q.latest.find? fun entry => entry.1 = key).map Prod.snd

/-- Puts a payload in the queue; it is due when the window has passed without another of its key.
Tells whether it superseded one that was still inside its window. -/
def schedule (q : QuietQueue κ β) (key : κ) (payload : β) (now : Nat) :
    Bool × QuietQueue κ β :=
  let next := { q with latest := without key q.latest ++ [(key, ⟨now + q.window, payload⟩)] }
  match q.latest? key with
  | none => (false, next)
  | some previous =>
    if previous.deadline ≤ now then
      (false, { next with elapsed := q.elapsed ++ [(key, previous)] })
    else (true, next)

/-- Drops all that waits under a key and tells its last payload. -/
def cancel (q : QuietQueue κ β) (key : κ) : Option β × QuietQueue κ β :=
  ((q.latest? key).map Waiting.payload,
    { q with latest := without key q.latest, elapsed := without key q.elapsed })

/-- Drops all that waits. -/
def clear (q : QuietQueue κ β) : QuietQueue κ β := { q with latest := [], elapsed := [] }

/-- Collects every payload whose window has passed; those of one key come in the order in which they
were scheduled. -/
def takeDue (q : QuietQueue κ β) (now : Nat) : List (κ × β) × QuietQueue κ β :=
  let due := q.latest.filter fun entry => entry.2.deadline ≤ now
  let rest := q.latest.filter fun entry => now < entry.2.deadline
  ((q.elapsed ++ due).map payloadOf, { q with latest := rest, elapsed := [] })

/-- Collects the payloads of a key, due or not. -/
def takeNow (q : QuietQueue κ β) (key : κ) : List β × QuietQueue κ β :=
  let own := (q.elapsed ++ q.latest).filter fun entry => entry.1 = key
  (own.map fun entry => entry.2.payload,
    { q with latest := without key q.latest, elapsed := without key q.elapsed })

/-- The entries that wait, those first that have waited longer for their collection. -/
def entries (q : QuietQueue κ β) : List (κ × Waiting β) := q.elapsed ++ q.latest

/-- The earliest time at which something is due. -/
def nextDeadline (q : QuietQueue κ β) : Option Nat :=
  (q.entries.map fun entry => entry.2.deadline).min?

/-- Whether something waits under a key. -/
def isPending (q : QuietQueue κ β) (key : κ) : Bool := q.entries.any fun entry => entry.1 = key

/-- How many payloads wait. -/
def size (q : QuietQueue κ β) : Nat := q.entries.length

def isEmpty (q : QuietQueue κ β) : Bool := q.entries.isEmpty

omit [DecidableEq κ] in
/-- Something is due at some time as long as something waits. -/
theorem isSome_nextDeadline (q : QuietQueue κ β) :
    q.nextDeadline.isSome = true ↔ q.isEmpty = false := by
  rw [nextDeadline, isEmpty]
  cases q.entries with
  | nil => simp
  | cons entry rest => simp [List.min?_cons]

omit [DecidableEq κ] in
theorem isEmpty_iff_size {q : QuietQueue κ β} : q.isEmpty = true ↔ q.size = 0 := by
  rw [isEmpty, size, List.isEmpty_iff, List.length_eq_zero_iff]

omit [DecidableEq κ] in
theorem isEmpty_iff_nextDeadline {q : QuietQueue κ β} :
    q.isEmpty = true ↔ q.nextDeadline = none := by
  rw [← Option.not_isSome_iff_eq_none, isSome_nextDeadline, Bool.not_eq_false]

omit [DecidableEq κ] in
/-- A collection at the time when something is due leaves less to wait. -/
theorem size_takeDue_lt {q : QuietQueue κ β} {deadline now : Nat}
    (due : q.nextDeadline = some deadline) (late : deadline ≤ now) :
    (q.takeDue now).2.size < q.size := by
  obtain ⟨entry, member, same⟩ := List.mem_map.1 (List.min?_mem due)
  have kept : (q.takeDue now).2.size = (q.latest.filter fun entry => now < entry.2.deadline).length :=
    rfl
  have whole : q.size = q.elapsed.length + q.latest.length := List.length_append
  rcases List.mem_append.1 member with early | last
  · have nonempty : 0 < q.elapsed.length := List.length_pos_of_mem early
    have less := List.length_filter_le (fun entry => now < entry.2.deadline) q.latest
    omega
  · have less : (q.latest.filter fun entry => now < entry.2.deadline).length < q.latest.length :=
      List.length_filter_lt_length_iff_exists.2 ⟨entry, last, by simp [same, late]⟩
    omega

end QuietQueue

end Sketchbook
