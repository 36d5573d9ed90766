import Mathlib.Data.List.Basic
import Sketchbook.Autosave.QuietQueue

/-!
Queues in which all that waits is of one key, as in the queue of an editor. Such a queue is the list
of what waits: the last payload under its key, and those before it whose windows had passed. Every
operation on the queue is one operation on that list.
-/
namespace Sketchbook.QuietQueue

variable {κ β : Type}

/-- The queue in which these payloads of one key wait, the last of them last. -/
def ofKey (window : Nat) (key : κ) (waits : List (Waiting β)) : QuietQueue κ β where
  window := window
  latest := waits.getLast?.toList.map (key, ·)
  elapsed := waits.dropLast.map (key, ·)

/-- Those that a collection takes: all of them if the window of the last has passed. -/
def dueOf (now : Nat) (waits : List (Waiting β)) : List (Waiting β) :=
  match waits.getLast? with
  | some last => if last.deadline ≤ now then waits else waits.dropLast
  | none => []

/-- Those that a collection leaves. -/
def leftOf (now : Nat) (waits : List (Waiting β)) : List (Waiting β) :=
  match waits.getLast? with
  | some last => if last.deadline ≤ now then [] else [last]
  | none => []

@[simp] theorem window_ofKey (window : Nat) (key : κ) (waits : List (Waiting β)) :
    (ofKey window key waits).window = window := rfl

@[simp] theorem entries_ofKey (window : Nat) (key : κ) (waits : List (Waiting β)) :
    (ofKey window key waits).entries = waits.map (key, ·) := by
  rcases List.eq_nil_or_concat' waits with rfl | ⟨before, last, rfl⟩ <;> simp [entries, ofKey]

@[simp] theorem isEmpty_ofKey (window : Nat) (key : κ) (waits : List (Waiting β)) :
    (ofKey window key waits).isEmpty = waits.isEmpty := by
  simp [isEmpty]

@[simp] theorem size_ofKey (window : Nat) (key : κ) (waits : List (Waiting β)) :
    (ofKey window key waits).size = waits.length := by
  simp [size]

@[simp] theorem clear_ofKey (window : Nat) (key : κ) (waits : List (Waiting β)) :
    (ofKey window key waits).clear = ofKey window key [] := rfl

/-- A queue in which nothing waits has nothing to lose. -/
theorem clear_of_isEmpty {q : QuietQueue κ β} (empty : q.isEmpty = true) : q.clear = q := by
  obtain ⟨window, latest, elapsed⟩ := q
  have nothing : elapsed = [] ∧ latest = [] := by simpa [isEmpty, entries] using empty
  obtain ⟨rfl, rfl⟩ := nothing
  rfl

theorem takeDue_ofKey (window : Nat) (key : κ) (waits : List (Waiting β)) (now : Nat) :
    (ofKey window key waits).takeDue now =
      ((dueOf now waits).map fun wait => (key, wait.payload),
        ofKey window key (leftOf now waits)) := by
  rcases List.eq_nil_or_concat' waits with rfl | ⟨before, last, rfl⟩
  · rfl
  · by_cases due : last.deadline ≤ now
    · simp [takeDue, ofKey, dueOf, leftOf, due, payloadOf]
    · have later : now < last.deadline := Nat.lt_of_not_le due
      simp [takeDue, ofKey, dueOf, leftOf, due, later, payloadOf]

section DecidableKey

variable [DecidableEq κ]

@[simp] theorem isPending_ofKey (window : Nat) (key : κ) (waits : List (Waiting β)) :
    (ofKey window key waits).isPending key = !waits.isEmpty := by
  cases waits <;> simp [isPending]

theorem latest_ofKey (window : Nat) (key : κ) (waits : List (Waiting β)) :
    (ofKey window key waits).latest? key = waits.getLast? := by
  cases last : waits.getLast? <;> simp [latest?, ofKey, last]

/-- Another payload of the key joins those that wait, or takes the place of one still inside its
window. -/
theorem schedule_ofKey (window : Nat) (key : κ) (waits : List (Waiting β)) (payload : β)
    (now : Nat) :
    (ofKey window key waits).schedule key payload now =
      match waits.getLast? with
      | none => (false, ofKey window key [⟨now + window, payload⟩])
      | some last =>
        if last.deadline ≤ now then
          (false, ofKey window key (waits ++ [⟨now + window, payload⟩]))
        else (true, ofKey window key (waits.dropLast ++ [⟨now + window, payload⟩])) := by
  rcases List.eq_nil_or_concat' waits with rfl | ⟨before, last, rfl⟩
  · rfl
  · simp only [schedule, latest_ofKey]
    by_cases due : last.deadline ≤ now <;> simp [due, ofKey, without]

/-- A payload joins those that can no longer be superseded; if there is one that can, it is. -/
theorem schedule_ofKey_dueOf (window : Nat) (key : κ) (waits : List (Waiting β)) (payload : β)
    (now : Nat) :
    (ofKey window key waits).schedule key payload now =
      (!(leftOf now waits).isEmpty,
        ofKey window key (dueOf now waits ++ [⟨now + window, payload⟩])) := by
  rw [schedule_ofKey, dueOf, leftOf]
  cases last : waits.getLast? with
  | none => rfl
  | some previous => by_cases due : previous.deadline ≤ now <;> simp [due]

theorem cancel_ofKey (window : Nat) (key : κ) (waits : List (Waiting β)) :
    (ofKey window key waits).cancel key =
      (waits.getLast?.map Waiting.payload, ofKey window key []) := by
  rw [cancel, latest_ofKey]
  rcases List.eq_nil_or_concat' waits with rfl | ⟨before, last, rfl⟩ <;> simp [ofKey, without]

theorem takeNow_ofKey (window : Nat) (key : κ) (waits : List (Waiting β)) :
    (ofKey window key waits).takeNow key =
      (waits.map Waiting.payload, ofKey window key []) := by
  rcases List.eq_nil_or_concat' waits with rfl | ⟨before, last, rfl⟩
  · rfl
  · have kept : before.filter (fun _ => true) = before := List.filter_eq_self.mpr (by simp)
    simp [takeNow, ofKey, without, List.filter_map, Function.comp_def, kept]

end DecidableKey

end Sketchbook.QuietQueue
