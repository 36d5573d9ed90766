import Mathlib.Data.List.Perm.Basic
import Sketchbook.Autosave.Session
import Sketchbook.Proofs.Autosave.Run

/-!
Waiting for the writes. A host that waits until nothing is left to write polls whenever something is due.
Each of its polls reports an outcome for every edit that it takes, and takes one at least, whatever the
store answers; so the wait ends after at most as many polls as there were edits (`draining_ends`), and the
bound that a session sets for its own wait never cuts it short.
-/
namespace Sketchbook

namespace QuietQueue

variable {κ β : Type}

/-- A collection takes some of the payloads that wait and leaves the others. -/
theorem length_takeDue_add_size (q : QuietQueue κ β) (now : Nat) :
    (q.takeDue now).1.length + (q.takeDue now).2.size = q.size := by
  have parted := (List.filter_append_perm (fun entry => entry.2.deadline ≤ now) q.latest).length_eq
  have left : q.latest.filter (fun entry => !decide (entry.2.deadline ≤ now)) =
      q.latest.filter fun entry => now < entry.2.deadline :=
    List.filter_congr fun entry _ => by simp only [← decide_not, Nat.not_le]
  rw [left, List.length_append] at parted
  simp only [takeDue, size, entries, List.length_map, List.length_append, List.length_nil]
  omega

end QuietQueue

namespace Editor

variable {σ : Type} [Records σ]

/-- The wait of a host for the writes: as long as there is a next deadline it polls then or later, and
meanwhile others may act on the store. These are the times of its polls, and the editor as it has come
by them. -/
inductive Drains : Editor σ → List Nat → Editor σ → Prop where
  | stop (e : Editor σ) : Drains e [] e
  | poll {e left : Editor σ} {deadline now : Nat} {times : List Nat}
      (next : e.waiting.nextDeadline = some deadline) (late : deadline ≤ now)
      (more : Drains (e.poll now).value.2 times left) : Drains e (now :: times) left
  | elsewhere {e left : Editor σ} {times : List Nat} (f : σ → σ)
      (more : Drains (e.step (.elsewhere f)).2 times left) : Drains e times left

/-- A poll reports an outcome for every edit that it takes from those that wait. -/
theorem length_poll_add_size (e : Editor σ) (now : Nat) :
    (e.poll now).value.1.length + (e.poll now).value.2.waiting.size = e.waiting.size := by
  have documents := congrArg List.length (puts_writeAll e.library (e.waiting.takeDue now).1).documents
  rw [List.length_map, List.length_map] at documents
  rw [← e.waiting.length_takeDue_add_size now, ← documents]
  rfl

/-- A poll at the next deadline or later leaves fewer edits to wait. -/
theorem size_poll_lt {e : Editor σ} {deadline now : Nat}
    (next : e.waiting.nextDeadline = some deadline) (late : deadline ≤ now) :
    (e.poll now).value.2.waiting.size < e.waiting.size :=
  QuietQueue.size_takeDue_lt next late

/-- Each poll of a wait takes an edit from those that were there. -/
theorem Drains.length_add_size_le {e left : Editor σ} {times : List Nat}
    (drains : Drains e times left) : times.length + left.waiting.size ≤ e.waiting.size := by
  induction drains with
  | stop e => exact Nat.le_of_eq (Nat.zero_add _)
  | @poll e left deadline now times next late more ih =>
    have fewer := size_poll_lt next late
    rw [List.length_cons]
    omega
  | elsewhere f more ih => exact ih

omit [Records σ] in
private theorem nextDeadline_of_size {e : Editor σ} (idle : e.waiting.size = 0) :
    e.waiting.nextDeadline = none :=
  QuietQueue.isEmpty_iff_nextDeadline.mp (QuietQueue.isEmpty_iff_size.mpr idle)

end Editor

namespace Session

open Editor (Drains)

variable {σ : Type} [Records σ]

/-- With as many polls as there are edits that wait, the wait of a session comes to its end. -/
theorem drains_drain (s : Session σ) (late : Nat → Nat) (now : Nat) {fuel : Nat}
    (enough : s.editor.waiting.size ≤ fuel) :
    ∃ times, Drains s.editor times (s.drain late now fuel).value.editor ∧
      (s.drain late now fuel).value.editor.waiting.nextDeadline = none := by
  induction fuel generalizing s now with
  | zero => exact ⟨[], .stop _, Editor.nextDeadline_of_size (Nat.le_zero.mp enough)⟩
  | succ fuel ih =>
    rw [drain]
    cases next : s.editor.waiting.nextDeadline with
    | none => exact ⟨[], .stop _, next⟩
    | some deadline =>
      have reached : deadline ≤ max now deadline + late fuel := by omega
      have fewer := Editor.size_poll_lt next reached
      have polled : (s.poll (max now deadline + late fuel)).value.editor =
          (s.editor.poll (max now deadline + late fuel)).value.2 := rfl
      obtain ⟨times, drains, idle⟩ := ih (s.poll (max now deadline + late fuel)).value
        (max now deadline + late fuel) (by rw [polled]; omega)
      exact ⟨_, .poll next reached drains, idle⟩

end Session

namespace Editor

variable {σ : Type} [Records σ]

/-- What a host can rely on that waits for the writes of an editor. -/
structure DrainsAway (e : Editor σ) : Prop where
  /-- However far the wait has come, a poll at the next deadline or later reports an outcome, and an edit
  waits less for every outcome. -/
  progress : ∀ times left deadline now, Drains e times left →
    left.waiting.nextDeadline = some deadline → deadline ≤ now →
      (left.poll now).value.1 ≠ [] ∧
      (left.poll now).value.2.waiting.size < left.waiting.size ∧
      (left.poll now).value.1.length + (left.poll now).value.2.waiting.size = left.waiting.size
  /-- There are no more polls than edits that waited. -/
  bounded : ∀ times left, Drains e times left → times.length ≤ e.waiting.size
  /-- When there were as many, the wait is over. -/
  ends : ∀ times left, Drains e times left → times.length = e.waiting.size →
    left.waiting.nextDeadline = none
  /-- The wait at the end of a session is such a wait, and goes on until it is over. -/
  session : ∀ summary late now, ∃ times,
    Drains e times ((⟨e, summary⟩ : Session σ).finish late now).value.editor ∧
      ((⟨e, summary⟩ : Session σ).finish late now).value.editor.waiting.nextDeadline = none

/-- Whatever calls an editor has had, and whatever the store answers to its writes, a host that polls
whenever something is due, then or later, is done after at most as many polls as there were edits that
waited. -/
theorem draining_ends (e : Editor σ) : e.DrainsAway where
  progress _ left _ now _ next late := by
    have whole := left.length_poll_add_size now
    have fewer := size_poll_lt next late
    refine ⟨?_, fewer, whole⟩
    rintro nothing
    rw [nothing, List.length_nil] at whole
    omega
  bounded _ _ drains := Nat.le_of_add_right_le drains.length_add_size_le
  ends _ _ drains all := by
    have room := drains.length_add_size_le
    apply nextDeadline_of_size
    omega
  session summary late now := Session.drains_drain ⟨e, summary⟩ late now (Nat.le_refl _)

end Editor

end Sketchbook
