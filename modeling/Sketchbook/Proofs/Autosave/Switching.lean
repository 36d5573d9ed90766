import Sketchbook.Proofs.Autosave.Visits
import Sketchbook.Proofs.Store.Texts

/-!
Switching between documents. However often the active document changes, and to whichever document, what
is written belongs to the visit that goes on: it is put under the id of the active document, it was taken
since that became active, and no other record changes (`old_content_is_never_written`).
-/
namespace Sketchbook.Editor

variable {σ : Type}

/-- Whether an event writes edits that wait. -/
def Event.saves : Event σ → Bool
  | .poll _ | .flush => true
  | _ => false

variable [Records σ]

/-- Other events hand nothing to the store. -/
theorem attempts_of_not_saves {s : Step σ} (quiet : s.event.saves = false) :
    s.reply.attempts = [] := by
  obtain ⟨serial, e, event⟩ := s
  cases event with
  | poll now => cases quiet
  | flush => cases quiet
  | _ => rfl

variable [KeepsTexts σ]

/-- Puts leave the texts under all other keys as they were. -/
theorem Puts.stored_of_ne [KeepsApart σ] {records final : σ} {key : String}
    (puts : Puts records due answers final) (apart : ∀ entry ∈ due, entry.1.text ≠ key) :
    stored final key = stored records key := by
  induction puts with
  | none => rfl
  | saved answer more ih =>
    obtain ⟨own, rest⟩ := List.forall_mem_cons.mp apart
    exact (ih rest).trans (stored_of_put_ne answer own.symm)
  | refused answer more ih => exact ih (List.forall_mem_cons.mp apart).2

/-- A run keeps its documents apart. -/
structure Separated (e : Editor σ) (events : List (Event σ)) : Prop where
  /-- What a step puts are edits of the document that is active then, each of which was taken since that
  became active. -/
  written : ∀ s ∈ steps e events, ∃ moved,
    (ledger e (events.take (s.serial + 1))).written =
      (ledger e (events.take s.serial)).written ++ moved ∧
    s.reply.attempts = moved.map Edit.entry ∧
    ∀ edit ∈ moved, s.before.active.map Descriptor.id = some edit.document ∧
      ∃ taking ∈ steps e events, taking.Takes edit ∧ StaysBetween events taking.serial s.serial
  /-- The attempts of a step are the puts that it makes. -/
  puts : ∀ s ∈ steps e events, s.event.isElsewhere = false →
    Puts s.before.library.records s.reply.attempts s.reply.outcomes s.after.library.records
  /-- An edit that was taken before the document was left is written by then or never. -/
  abandoned : ∀ s ∈ steps e events, s.event.leaves = true → ∀ edit ∈ (ledger e events).written,
    edit.serial < s.serial → edit ∈ (ledger e (events.take s.serial)).written
  /-- A record changes only when edits are written while its document is active. -/
  others : ∀ s ∈ steps e events, s.event.isElsewhere = false → ∀ key,
    stored s.after.library.records key ≠ stored s.before.library.records key →
    s.event.saves = true ∧ s.before.active.map (fun d => d.id.text) = some key

variable {e : Editor σ} {events : List (Event σ)}

private theorem record_of_changed [KeepsApart σ] (idle : e.waiting.isEmpty = true) {s : Step σ}
    (inside : s ∈ steps e events) (own : s.event.isElsewhere = false) {key : String}
    (changed : stored s.after.library.records key ≠ stored s.before.library.records key) :
    s.event.saves = true ∧ s.before.active.map (fun d => d.id.text) = some key := by
  have puts := puts_of_step s own
  obtain ⟨moved, _, attempts, owned⟩ := written_step idle inside
  constructor
  · by_contra quiet
    rw [Bool.not_eq_true] at quiet
    rw [attempts_of_not_saves quiet] at puts
    exact changed (puts.stored_of_ne (by simp))
  · by_contra apart
    refine changed (puts.stored_of_ne fun entry member same => apart ?_)
    rw [attempts] at member
    obtain ⟨edit, inMoved, rfl⟩ := List.mem_map.mp member
    have active := congrArg (Option.map DocumentId.text) (owned edit inMoved).2.1
    rw [Option.map_map] at active
    exact active.trans (congrArg some same)

/-- Whatever is called, in whatever order and with whatever times, and however often the active document
changes: what is written are edits of the active document that were taken since it became active, and
the records of all other documents stay as they are. -/
theorem old_content_is_never_written [KeepsApart σ] (library : Library σ) (window : Nat)
    (events : List (Event σ)) : Separated (ofLibrary library window) events where
  written s inside := by
    obtain ⟨moved, written, attempts, owned⟩ := written_step rfl inside
    refine ⟨moved, written, attempts, fun edit member => ?_⟩
    obtain ⟨taken, active, stays⟩ := owned edit member
    obtain ⟨taking, earlier, entered⟩ := mem_edits.mp taken
    have takes := (takes_of_edit? entered).1
    have whole := mem_steps_append (events.drop s.serial) earlier
    rw [List.take_append_drop] at whole
    exact ⟨active, taking, whole, takes, takes.serial ▸ stays⟩
  puts s _ own := puts_of_step s own
  abandoned s inside leaves edit written older := written_before_leaving inside leaves written older
  others s inside own key changed := record_of_changed rfl inside own changed

/-- There and back: an edit of each document is left behind before one is written. -/
def thereAndBack : List (Event MemoryRecords) :=
  [.open sample, .change (.integer 1) 0, .open otherSample, .change (.integer 2) 5, .open sample,
    .change (.integer 3) 7, .poll 100, .flush]

theorem thereAndBack_separated :
    Separated blank thereAndBack ∧ attempts blank thereAndBack = [(sample.id, "3")] :=
  ⟨old_content_is_never_written _ _ _, by decide +kernel⟩

end Sketchbook.Editor
