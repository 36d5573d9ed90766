import Sketchbook.Proofs.Autosave.Hydration

/-!
Refused calls. An edit is refused when no document is loaded or its data cannot be told as content, and the
answer of a store when it is for another activation or comes when content is there. A run without the calls
that it refused goes the same way: every other call finds and leaves the same editor and store and is answered
the same (`refused_calls_are_invisible`).
-/
namespace Sketchbook.Editor

variable {σ : Type} [Records σ]

/-- Whether a step is an edit or an answer that was not taken. -/
def Step.refused (s : Step σ) : Bool :=
  match s.event with
  | .change _ _ | .completeHydration _ _ => !s.reply.taken
  | _ => false

/-- The steps of a run that are not refused. -/
def heededSteps (e : Editor σ) (events : List (Event σ)) : List (Step σ) :=
  (steps e events).filter (!·.refused)

/-- The events of a run without those that it refuses. -/
def heeded (e : Editor σ) (events : List (Event σ)) : List (Event σ) :=
  (heededSteps e events).map Step.event

/-- A step without its place in the run: all that its host can see of it. -/
structure Call (σ : Type) where
  before : Editor σ
  event : Event σ
  reply : Reply
  after : Editor σ

def Step.call (s : Step σ) : Call σ := ⟨s.before, s.event, s.reply, s.after⟩

/-! ### Single calls -/

/-- An edit is refused if there is no document, if it is not loaded, or if the data cannot be told. -/
theorem refused_change {s : Step σ} {m : Model} {now : Nat} (event : s.event = .change m now) :
    s.refused = true ↔ s.before.active = none ∨ s.before.content = none ∨
      ∃ error, Content.ofModel m = .error error := by
  obtain ⟨serial, e, _⟩ := s
  cases event
  simp only [Step.refused, Step.reply, step, value_change]
  cases active : e.active with
  | none => simp
  | some d =>
    cases content : e.content with
    | none => simp
    | some old =>
      cases made : Content.ofModel m with
      | error error => simp [encode, made, bind, Except.bind]
      | ok fresh => simp [encode, made, bind, Except.bind, pure, Except.pure]

/-- An answer is refused if it is for another activation or if content is there. -/
theorem refused_completeHydration {s : Step σ} {ticket : Ticket} {fetched : Except StoreError Content}
    (event : s.event = .completeHydration ticket fetched) :
    s.refused = true ↔
      ticket.activation ≠ s.before.activation ∨ s.before.content.isSome = true := by
  have taken := (completeHydration_step event).1
  simp only [Step.refused, event]
  rw [Bool.not_eq_true', ← Bool.not_eq_true, taken, not_and_or, Option.isSome_iff_ne_none]

/-- A refused call changes nothing. -/
theorem after_of_refused {s : Step σ} (refused : s.refused = true) : s.after = s.before := by
  obtain ⟨serial, e, event⟩ := s
  cases event with
  | change m now =>
    rcases change_cases serial e m now with ⟨_, same⟩ | ⟨_, _, _, _, _, _, taken⟩
    · rw [Step.after, step, same]
    · simp [Step.refused, Step.reply, step, taken] at refused
  | completeHydration ticket fetched =>
    apply (completeHydration_step rfl).2.2
    simpa [Step.refused] using refused
  | _ => cases refused

/-! ### Runs -/

theorem heededSteps_concat (e : Editor σ) (events : List (Event σ)) (event : Event σ) :
    heededSteps e (events ++ [event]) =
      if Step.refused ⟨events.length, after e events, event⟩ then heededSteps e events
      else heededSteps e events ++ [⟨events.length, after e events, event⟩] := by
  cases refused : Step.refused ⟨events.length, after e events, event⟩ <;>
    simp [heededSteps, refused]

/-- A run goes the same way without the calls that it refuses. -/
structure Unaffected (e : Editor σ) (events : List (Event σ)) : Prop where
  /-- Every other call finds the same editor, is answered the same and leaves the same editor. -/
  calls : (steps e (heeded e events)).map Step.call = (heededSteps e events).map Step.call
  /-- In the end the editor and its store are the same. -/
  final : after e (heeded e events) = after e events

/-- One more call, refused or not, keeps it so. -/
private theorem Unaffected.next {e : Editor σ} {events : List (Event σ)} (same : Unaffected e events)
    (event : Event σ) : Unaffected e (events ++ [event]) := by
  have shape := heededSteps_concat e events event
  cases refused : Step.refused ⟨events.length, after e events, event⟩ with
  | true =>
    rw [if_pos refused] at shape
    have left : heeded e (events ++ [event]) = heeded e events := by rw [heeded, shape, heeded]
    have kept : after e (events ++ [event]) = after e events := by
      rw [after_concat]
      exact after_of_refused refused
    refine ⟨?_, ?_⟩
    · rw [left, shape, same.calls]
    · rw [left, kept, same.final]
  | false =>
    rw [if_neg (by simp [refused])] at shape
    have left : heeded e (events ++ [event]) = heeded e events ++ [event] := by
      rw [heeded, shape, List.map_append, heeded]
      rfl
    -- The call finds the same editor in both runs; only its place differs.
    refine ⟨?_, ?_⟩
    · rw [left, shape, steps_concat, List.map_append, List.map_append, same.calls, same.final]
      rfl
    · rw [left, after_concat, after_concat, same.final]

/-- Whatever calls are made, in any order and with any times, the edits and the answers that were refused
could as well not have been made; and an edit was refused only for want of a loaded document or of data
that can be told, an answer only for coming too late. -/
theorem refused_calls_are_invisible (e : Editor σ) (events : List (Event σ)) :
    Unaffected e events ∧ ∀ s ∈ steps e events,
      (∀ m now, s.event = .change m now →
        (s.refused = true ↔ s.before.active = none ∨ s.before.content = none ∨
          ∃ error, Content.ofModel m = .error error)) ∧
      ∀ ticket fetched, s.event = .completeHydration ticket fetched →
        (s.refused = true ↔
          ticket.activation ≠ s.before.activation ∨ s.before.content.isSome = true) := by
  refine ⟨?_, fun s _ => ⟨fun _ _ => refused_change, fun _ _ => refused_completeHydration⟩⟩
  induction events using List.reverseRecOn with
  | nil => exact ⟨rfl, rfl⟩
  | append_singleton events event ih => exact ih.next event

/-- An edit waits while others are refused: before a document is there, before it is loaded, as data that
refuses to be told, and with answers that come twice and for an activation that is over. -/
def fiveRefusals : List (Event MemoryRecords) :=
  [.change (.integer 0) 0, .activate otherSample, .activate sample, .change (.integer 1) 1,
    .completeHydration ⟨otherSample.id, 1⟩ (.ok .emptyScene),
    .completeHydration ⟨sample.id, 2⟩ (.error .offline), .change (.integer 2) 5,
    .change (.list [.integer 3, .unwritable "no"]) 9,
    .completeHydration ⟨sample.id, 2⟩ (.ok .emptyScene), .poll 15]

theorem fiveRefusals_invisible :
    Unaffected blank fiveRefusals ∧
      ((steps blank fiveRefusals).filter Step.refused).map Step.serial = [0, 3, 4, 7, 8] ∧
      attempts blank (heeded blank fiveRefusals) = [(sample.id, "2")] :=
  ⟨(refused_calls_are_invisible _ _).1, by decide +kernel, by decide +kernel⟩

end Sketchbook.Editor
