import Sketchbook.Proofs.Autosave.Run

/-!
Tickets. A ticket is good for the activation during which it was given out: with the tickets of its
own run an editor never has content without a document (`active_of_content`).
-/
namespace Sketchbook.Editor

variable {σ : Type} [Records σ]

/-- Answers are handed in only for tickets that the run gave out before. -/
def OwnTickets (e : Editor σ) (events : List (Event σ)) : Prop :=
  ∀ before ticket fetched later, events = before ++ .completeHydration ticket fetched :: later →
    ∃ s ∈ steps e before, s.reply.ticket = some ticket

theorem OwnTickets.front {e : Editor σ} {first second : List (Event σ)}
    (own : OwnTickets e (first ++ second)) : OwnTickets e first := by
  intro before ticket fetched later split
  refine own before ticket fetched (later ++ second) ?_
  rw [split, List.append_assoc, List.cons_append]

theorem OwnTickets.last {e : Editor σ} {events : List (Event σ)} {ticket : Ticket}
    {fetched : Except StoreError Content}
    (own : OwnTickets e (events ++ [.completeHydration ticket fetched])) :
    ∃ s ∈ steps e events, s.reply.ticket = some ticket :=
  own events ticket fetched [] rfl

/-- The ticket of an answer. -/
def Event.ticket? : Event σ → Option Ticket
  | .completeHydration ticket _ => some ticket
  | _ => none

/-- Every answer of a run is for a ticket that an earlier step gave out. -/
theorem ownTickets_iff {e : Editor σ} {events : List (Event σ)} :
    OwnTickets e events ↔ ∀ s ∈ steps e events, ∀ ticket ∈ s.event.ticket?,
      ∃ given ∈ steps e events, given.serial < s.serial ∧ given.reply.ticket = some ticket := by
  constructor
  · intro own s inside ticket asked
    obtain ⟨prior, later, rfl, _, place⟩ := mem_steps.mp inside
    obtain ⟨fetched, answer⟩ : ∃ fetched, s.event = .completeHydration ticket fetched := by
      cases event : s.event with
      | completeHydration other fetched =>
        rw [event] at asked
        exact ⟨fetched, by rw [Option.some.inj asked]⟩
      | _ => simp [event, Event.ticket?] at asked
    obtain ⟨given, earlier, ticketed⟩ := own prior ticket fetched later (by rw [answer])
    exact ⟨given, mem_steps_append _ earlier, place ▸ serial_lt_of_mem_steps earlier, ticketed⟩
  · rintro own before ticket fetched later rfl
    have answer : (⟨before.length, after e before, .completeHydration ticket fetched⟩ : Step σ) ∈
        steps e (before ++ .completeHydration ticket fetched :: later) :=
      mem_steps.mpr ⟨before, later, rfl, rfl, rfl⟩
    obtain ⟨given, inside, early, ticketed⟩ := own _ answer ticket rfl
    exact ⟨given, mem_steps_front inside early, ticketed⟩

instance (e : Editor σ) (events : List (Event σ)) : Decidable (OwnTickets e events) :=
  decidable_of_iff _ ownTickets_iff.symm

/-- Leaving the active document begins another activation. -/
theorem activation_of_leaves (e : Editor σ) (event : Event σ) (leaves : event.leaves = true) :
    (e.step event).2.activation = e.activation + 1 := by
  cases event with
  | activate d => rfl
  | deactivate => rfl
  | «open» d => simp [step]
  | _ => cases leaves

/-- Nothing else touches the active document or its activation. -/
theorem active_of_stays (e : Editor σ) (event : Event σ) (stays : event.leaves = false) :
    (e.step event).2.active = e.active ∧ (e.step event).2.activation = e.activation := by
  cases event with
  | activate d => cases stays
  | deactivate => cases stays
  | «open» d => cases stays
  | hydrate =>
    simp only [step, value_hydrate]
    split <;> exact ⟨rfl, rfl⟩
  | beginHydration => exact ⟨rfl, rfl⟩
  | completeHydration ticket fetched =>
    simp only [step, value_completeHydration]
    split <;> exact ⟨rfl, rfl⟩
  | change m now =>
    simp only [step, value_change]
    split <;> exact ⟨rfl, rfl⟩
  | poll now => exact ⟨rfl, rfl⟩
  | flush =>
    cases active : e.active <;> simp [step, value_flush, active]
  | elsewhere f => exact ⟨rfl, rfl⟩

/-- A step gives a ticket out if it is asked for one while the active document has no content. -/
theorem ticket_step {s : Step σ} {ticket : Ticket} (given : s.reply.ticket = some ticket) :
    s.event = .beginHydration ∧ ticket.activation = s.before.activation ∧
      s.before.active.map Descriptor.id = some ticket.document := by
  obtain ⟨serial, e, event⟩ := s
  cases event with
  | beginHydration =>
    simp only [Step.reply, step, beginHydration] at given
    split at given
    · next active =>
      cases given
      exact ⟨rfl, rfl, by rw [active]; rfl⟩
    · cases given
  | _ => cases given

/-- No ticket is for an activation that is still to come, and one for this activation is for the
active document. -/
theorem ticket_of_run {e : Editor σ} {events : List (Event σ)} {s : Step σ} {ticket : Ticket}
    (inside : s ∈ steps e events) (given : s.reply.ticket = some ticket) :
    ticket.activation ≤ (after e events).activation ∧
      (ticket.activation = (after e events).activation →
        (after e events).active.map Descriptor.id = some ticket.document) := by
  induction events using List.reverseRecOn with
  | nil => cases inside
  | append_singleton events event ih =>
    rw [after_concat]
    rcases mem_steps_concat.mp inside with earlier | rfl
    · obtain ⟨past, current⟩ := ih earlier
      cases leaves : event.leaves with
      | true =>
        have older : ticket.activation < (after e events).activation + 1 := Nat.lt_succ_of_le past
        rw [activation_of_leaves _ event leaves]
        exact ⟨Nat.le_of_lt older, fun same => absurd same (Nat.ne_of_lt older)⟩
      | false =>
        obtain ⟨active, activation⟩ := active_of_stays (after e events) event leaves
        rw [active, activation]
        exact ⟨past, current⟩
    · obtain ⟨event, activation, document⟩ := ticket_step given
      simp only at event activation document
      rw [event]
      exact ⟨Nat.le_of_eq activation, fun _ => document⟩

/-- With its own tickets an editor has content only for an active document. -/
theorem active_of_content {e : Editor σ} {events : List (Event σ)}
    (fresh : e.content.isSome = true → e.active.isSome = true) (own : OwnTickets e events)
    (loaded : (after e events).content.isSome = true) :
    (after e events).active.isSome = true := by
  induction events using List.reverseRecOn with
  | nil => exact fresh loaded
  | append_singleton events event ih =>
    have before := ih own.front
    rw [after_concat] at loaded ⊢
    cases event with
    | activate d => rfl
    | deactivate => cases loaded
    | «open» d => simp [step]
    | hydrate =>
      simp only [step, value_hydrate] at loaded ⊢
      split <;> simp_all
    | beginHydration => exact before loaded
    | completeHydration ticket fetched =>
      simp only [step, value_completeHydration] at loaded ⊢
      split
      · next taken =>
        obtain ⟨s, inside, given⟩ := own.last
        have document := (ticket_of_run inside given).2 taken.1
        simpa using congrArg Option.isSome document
      · next refused =>
        rw [if_neg refused] at loaded
        exact before loaded
    | change m now =>
      cases active : (after e events).active with
      | none =>
        have unloaded : (after e events).content = none := by simpa [active] using before
        simp [step, value_change, active, unloaded] at loaded
      | some d =>
        rw [(active_of_stays (after e events) (.change m now) rfl).1, active]
        rfl
    | poll now => exact before loaded
    | flush =>
      simp only [step, value_flush] at loaded ⊢
      split at loaded <;> exact before loaded
    | elsewhere f => exact before loaded

end Sketchbook.Editor
