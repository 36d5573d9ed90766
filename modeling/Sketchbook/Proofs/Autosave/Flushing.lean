import Sketchbook.Proofs.Autosave.Ledger

/-!
Flushing. A flush takes what waits of the active document, due or not; a poll takes what is due of
every document. As all that waits is of the active document, a flush is the same as a poll when
everything is due (`flushing_is_polling_late`).
-/
namespace Sketchbook.QuietQueue

variable {κ β : Type}

/-- When every deadline has come a collection takes all that waits under the key of the queue. -/
theorem takeDue_ofKey_of_late (window : Nat) (key : κ) {waits : List (Waiting β)} {now : Nat}
    (late : ∀ wait ∈ waits, wait.deadline ≤ now) :
    (ofKey window key waits).takeDue now =
      (waits.map fun wait => (key, wait.payload), ofKey window key []) := by
  rw [takeDue_ofKey, dueOf, leftOf]
  rcases List.eq_nil_or_concat' waits with rfl | ⟨before, last, rfl⟩
  · rfl
  · have due : last.deadline ≤ now := late last (by simp)
    simp [due]

end Sketchbook.QuietQueue

namespace Sketchbook.Editor

variable {σ : Type} [Records σ]

/-- A flush of an editor whose books are in order takes all that waits, so it does what a poll does
when all of that is due. -/
theorem Ledger.Agrees.flush_eq_poll {l : Ledger} {e : Editor σ} (agrees : l.Agrees e) {now : Nat}
    (late : ∀ entry ∈ e.waiting.entries, entry.2.deadline ≤ now) : e.flush = e.poll now := by
  cases active : e.active with
  | none =>
    obtain ⟨shape, _⟩ := agrees.idle active
    have nothing : e.waiting.takeDue now = ([], e.waiting) := by
      rw [← shape]
      rfl
    have flushed : e.flush = pure ([], e) := by
      rw [flush, active]
    have polled : e.poll now = pure ([], e) := by
      rw [poll, nothing]
      rfl
    rw [flushed, polled]
  | some d =>
    have queue := agrees.queue d active
    have own := QuietQueue.takeNow_ofKey e.waiting.window d.id (l.pending.map Edit.waiting)
    -- All that waits is of the active document, so both take the same texts in the same order.
    have come : ∀ wait ∈ l.pending.map Edit.waiting, wait.deadline ≤ now := by
      intro wait inside
      rw [queue, QuietQueue.entries_ofKey] at late
      exact late (d.id, wait) (List.mem_map_of_mem inside)
    have due := QuietQueue.takeDue_ofKey_of_late e.waiting.window d.id come
    rw [← queue] at own due
    simp only [flush, active, own, poll, due, List.map_map]
    rfl

/-- A flush of an editor whose books are in order leaves nothing to wait. -/
theorem Ledger.Agrees.isEmpty_flush {l : Ledger} {e : Editor σ} (agrees : l.Agrees e) :
    e.flush.value.2.waiting.isEmpty = true := by
  cases active : e.active with
  | none =>
    obtain ⟨shape, _⟩ := agrees.idle active
    simp only [value_flush, active]
    rw [← shape]
    rfl
  | some d =>
    have own := QuietQueue.takeNow_ofKey e.waiting.window d.id (l.pending.map Edit.waiting)
    rw [← agrees.queue d active] at own
    simp only [value_flush, active, own]
    rfl

/-- In every state that calls lead to, a flush and a poll at a time when every deadline has come
report the same outcomes and notices and leave the same store and the same editor; and a flush
leaves nothing to wait. -/
theorem flushing_is_polling_late (library : Library σ) (window : Nat) (events : List (Event σ)) :
    (∀ now, (∀ entry ∈ (after (ofLibrary library window) events).waiting.entries,
        entry.2.deadline ≤ now) →
      (after (ofLibrary library window) events).flush =
        (after (ofLibrary library window) events).poll now) ∧
      (after (ofLibrary library window) events).flush.value.2.waiting.isEmpty = true := by
  have agrees := ledger_agrees (e := ofLibrary library window) rfl events
  constructor
  · intro now late
    exact agrees.flush_eq_poll late
  · exact agrees.isEmpty_flush

/-- Two edits, the second of which comes after the window of the first. -/
def twoWaiting : List (Event MemoryRecords) :=
  [.open sample, .change (.integer 1) 0, .change (.integer 2) 15]

theorem twoWaiting_flushed :
    (∀ entry ∈ (after blank twoWaiting).waiting.entries, entry.2.deadline ≤ 25) ∧
      (after blank twoWaiting).flush = (after blank twoWaiting).poll 25 ∧
      (after blank twoWaiting).flush.value.1.length = 2 :=
  ⟨by decide +kernel, (flushing_is_polling_late _ _ _).1 25 (by decide +kernel), by decide +kernel⟩

end Sketchbook.Editor
