import Sketchbook.Proofs.Autosave.Fates

/-!
Visits. A visit is the stretch of a run during which one document stays the active one; the event that
makes the document active is its first. Edits wait only during the visit in which they were taken
(`staysBetween_of_pending`), and an edit that was left behind is never written afterwards
(`written_before_leaving`).
-/
namespace Sketchbook.Editor

variable {σ : Type}

/-- One place of a run comes before another, and no event between them leaves the active document. -/
def StaysBetween (events : List (Event σ)) (first last : Nat) : Prop :=
  first < last ∧ ∀ place event, events[place]? = some event → first < place → place < last →
    event.leaves = false

/-- Only what comes before the later place matters. -/
theorem staysBetween_append {prior : List (Event σ)} (later : List (Event σ))
    (bound : last ≤ prior.length) :
    StaysBetween (prior ++ later) first last ↔ StaysBetween prior first last := by
  refine and_congr_right fun _ => forall_congr' fun place => ?_
  by_cases inside : place < last
  · rw [List.getElem?_append_left (Nat.lt_of_lt_of_le inside bound)]
  · simp [inside]

/-- A run that goes on is still in the visit of a place if it was so before and the new event does not
leave the document; the new event itself is the latest place. -/
theorem staysBetween_concat {events : List (Event σ)} {event : Event σ} :
    StaysBetween (events ++ [event]) first (events ++ [event]).length ↔
      first = events.length ∨ (StaysBetween events first events.length ∧ event.leaves = false) := by
  rw [List.length_append, List.length_singleton]
  constructor
  · rintro ⟨order, stays⟩
    rcases Nat.lt_succ_iff_lt_or_eq.mp order with earlier | last
    · refine Or.inr ⟨⟨earlier, fun place other found after before => ?_⟩, ?_⟩
      · refine stays place other ?_ after (Nat.lt_succ_of_lt before)
        rw [List.getElem?_append_left before, found]
      · exact stays events.length event List.getElem?_concat_length earlier (Nat.lt_succ_self _)
    · exact Or.inl last
  · rintro (rfl | ⟨⟨earlier, stays⟩, last⟩)
    · exact ⟨Nat.lt_succ_self _, fun place other _ after before => absurd before (by omega)⟩
    · refine ⟨Nat.lt_succ_of_lt earlier, fun place other found after before => ?_⟩
      rcases Nat.lt_succ_iff_lt_or_eq.mp before with inside | rfl
      · rw [List.getElem?_append_left inside] at found
        exact stays place other found after inside
      · rw [List.getElem?_concat_length, Option.some.injEq] at found
        rw [← found]
        exact last

/-- A place whose event has just happened is of the visit that goes on. -/
theorem staysBetween_last (events : List (Event σ)) (event : Event σ) :
    StaysBetween (events ++ [event]) events.length (events ++ [event]).length :=
  staysBetween_concat.mpr (Or.inl rfl)

/-! ### The visits of steps -/

variable [Records σ] {e : Editor σ} {events : List (Event σ)}

/-- No step between two places of a visit leaves the document. -/
theorem StaysBetween.step (stays : StaysBetween events first last) {s : Step σ}
    (inside : s ∈ steps e events) (after : first < s.serial) (before : s.serial < last) :
    s.event.leaves = false :=
  stays.2 s.serial s.event (getElem?_of_mem_steps inside) after before

/-- The visit of a step, seen from the run that leads to it. -/
theorem visit_of_step {s : Step σ} (inside : s ∈ steps e events) :
    ∃ prior later, events = prior ++ s.event :: later ∧ s.before = after e prior ∧
      ∀ other, (other ∈ steps e events ∧ StaysBetween events other.serial s.serial) ↔
        (other ∈ steps e prior ∧ StaysBetween prior other.serial prior.length) := by
  obtain ⟨prior, later, rfl, found, place⟩ := mem_steps.mp inside
  refine ⟨prior, later, rfl, found, fun other => ?_⟩
  rw [place, staysBetween_append _ (Nat.le_refl _)]
  constructor
  · rintro ⟨member, stays⟩
    exact ⟨mem_steps_front member stays.1, stays⟩
  · rintro ⟨earlier, stays⟩
    exact ⟨mem_steps_append _ earlier, stays⟩

/-! ### Edits and their visits -/

/-- An edit that waits was taken during the visit that goes on. -/
theorem staysBetween_of_pending {edit : Edit} (waits : edit ∈ (ledger e events).pending) :
    StaysBetween events edit.serial events.length := by
  induction events using List.reverseRecOn with
  | nil => cases waits
  | append_singleton events event ih =>
    rw [ledger_concat] at waits
    rw [staysBetween_concat]
    rcases Ledger.mem_pending_record waits with entered | ⟨earlier, stays⟩
    · exact Or.inl (takes_of_edit? entered).1.serial
    · exact Or.inr ⟨ih earlier, stays⟩

/-- What a step moves to the written edits of its run is what it hands to the store, and all of it was
taken during the visit of the step. -/
theorem written_step (idle : e.waiting.isEmpty = true) {s : Step σ} (inside : s ∈ steps e events) :
    ∃ moved, (ledger e (events.take (s.serial + 1))).written =
        (ledger e (events.take s.serial)).written ++ moved ∧
      s.reply.attempts = moved.map Edit.entry ∧
      ∀ edit ∈ moved, edit ∈ edits e (events.take s.serial) ∧
        s.before.active.map Descriptor.id = some edit.document ∧
        StaysBetween events edit.serial s.serial := by
  obtain ⟨prior, later, rfl, found, place⟩ := mem_steps.mp inside
  have self : s = ⟨prior.length, after e prior, s.event⟩ := by rw [← found, ← place]
  have before : (prior ++ s.event :: later).take s.serial = prior := by rw [place, List.take_left]
  have further : (prior ++ s.event :: later).take (s.serial + 1) = prior ++ [s.event] := by
    rw [List.append_cons, List.take_left' (by simp [place])]
  have agrees := ledger_agrees idle prior
  obtain ⟨moved, written, waited⟩ := (ledger e prior).written_record s
  have attempts := Ledger.Agrees.attempts_of_moved (found ▸ agrees) written
  refine ⟨moved, by rw [further, before, ledger_concat, ← self, written], attempts, ?_⟩
  intro edit member
  have waits := waited edit member
  refine ⟨by rw [before]; exact mem_edits_of_pending waits, ?_, ?_⟩
  · rw [found]
    cases active : (after e prior).active with
    | none => rw [(agrees.idle active).2] at waits; cases waits
    | some d => rw [agrees.own d active edit waits, Option.map_some]
  · rw [place, staysBetween_append _ (Nat.le_refl _)]
    exact staysBetween_of_pending waits

/-- An edit that is written in the end, and was taken before the document was left, had been written
when the document was left. -/
theorem written_before_leaving {s : Step σ} (inside : s ∈ steps e events)
    (leaves : s.event.leaves = true) {edit : Edit} (written : edit ∈ (ledger e events).written)
    (older : edit.serial < s.serial) : edit ∈ (ledger e (events.take s.serial)).written := by
  induction events using List.reverseRecOn with
  | nil => cases inside
  | append_singleton events event ih =>
    have early := serial_lt_of_mem_steps inside
    rw [List.length_append, List.length_singleton] at early
    rw [List.take_append_of_le_length (Nat.le_of_lt_succ early)]
    rcases mem_steps_concat.mp inside with earlier | rfl
    · obtain ⟨moved, shape, waited⟩ :=
        (ledger e events).written_record ⟨events.length, after e events, event⟩
      rw [ledger_concat, shape] at written
      rcases List.mem_append.mp written with before | now
      · exact ih earlier before
      · have stays := staysBetween_of_pending (waited edit now)
        have kept := stays.step earlier older (serial_lt_of_mem_steps earlier)
        rw [leaves] at kept
        cases kept
    · rw [ledger_concat, Ledger.written_of_leaves _ leaves] at written
      rw [List.take_length]
      exact written

end Sketchbook.Editor
