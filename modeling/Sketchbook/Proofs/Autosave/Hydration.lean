import Sketchbook.Proofs.Autosave.Tickets
import Sketchbook.Proofs.Autosave.Visits

/-!
Loading in spite of late answers. Answers may come late, repeatedly and in any order: one is taken if and
only if its ticket was given out during the visit that goes on and nothing has been loaded in it, so that
a document is loaded once and what is shown is always the active document's (`hydration_is_safe`).
-/
namespace Sketchbook.Editor

variable {σ : Type} [Records σ]

/-- The document that a step loads, with the content that is shown for it. -/
def Step.loads? (s : Step σ) : Option (DocumentId × Content) :=
  match s.event with
  | .open d => some (d.id, shown (s.before.library.get d.id))
  | .hydrate =>
    s.before.beginHydration.map fun ticket =>
      (ticket.document, shown (s.before.library.get ticket.document))
  | .completeHydration ticket fetched =>
    if s.reply.taken then some (ticket.document, shown fetched) else none
  | _ => none

/-- The content that a step shows, with its document: one that it loads, or an edit that it takes. -/
def Step.shows? (s : Step σ) : Option (DocumentId × Content) :=
  match s.event, s.before.active with
  | .change m _, some d =>
    if s.reply.taken then (Content.ofModel m).toOption.map (d.id, ·) else none
  | _, _ => s.loads?

/-! ### What a step does to the content -/

/-- The content after a step is what the step shows; if it shows nothing, the content is gone when the
document is left and stays otherwise. -/
theorem content_step (s : Step σ) :
    s.after.content =
      match s.shows? with
      | some (_, content) => some content
      | none => if s.event.leaves then none else s.before.content := by
  obtain ⟨serial, e, event⟩ := s
  cases event with
  | activate d => rfl
  | deactivate => rfl
  | «open» d => simp [Step.after, step, Step.shows?, Step.loads?]
  | hydrate =>
    cases content : e.content <;> cases active : e.active <;>
      simp [Step.after, step, value_hydrate, Step.shows?, Step.loads?, beginHydration, content,
        active, Event.leaves]
  | beginHydration => rfl
  | completeHydration ticket fetched =>
    simp only [Step.after, Step.reply, step, Step.shows?, Step.loads?, value_completeHydration]
    split <;> simp [Event.leaves]
  | change m now =>
    rcases change_cases serial e m now with
      ⟨_, refused⟩ | ⟨d, content, text, active, encoded, _, taken⟩
    · cases active : e.active <;>
        simp [Step.after, Step.reply, step, Step.shows?, Step.loads?, active, refused, Event.leaves]
    · have made := (encode_eq_ok.mp encoded).1
      simp [Step.after, Step.reply, step, Step.shows?, active, taken, made, Except.toOption]
  | poll now => rfl
  | flush =>
    simp only [Step.after, step, value_flush]
    split <;> rfl
  | elsewhere f => rfl

/-- There is content after a step if and only if the step loads it or it was there and stays. -/
theorem isSome_content_step (s : Step σ) :
    s.after.content.isSome = true ↔
      s.loads?.isSome = true ∨ (s.before.content.isSome = true ∧ s.event.leaves = false) := by
  obtain ⟨serial, e, event⟩ := s
  have others (same : Step.shows? ⟨serial, e, event⟩ = Step.loads? ⟨serial, e, event⟩) :
      (Step.after ⟨serial, e, event⟩).content.isSome = true ↔
        (Step.loads? ⟨serial, e, event⟩).isSome = true ∨
          (e.content.isSome = true ∧ event.leaves = false) := by
    rw [content_step, same]
    cases Step.loads? ⟨serial, e, event⟩ <;> cases event.leaves <;> simp
  cases event with
  | change m now =>
    simp only [Step.after, step, value_change, Step.loads?, Event.leaves]
    split
    · next there _ => simp [there]
    · simp
  | _ => exact others rfl

/-- An answer is taken if its ticket is for this activation and nothing is loaded yet. It then becomes
the content, and otherwise nothing changes. -/
theorem completeHydration_step {s : Step σ} {ticket : Ticket} {fetched : Except StoreError Content}
    (event : s.event = .completeHydration ticket fetched) :
    (s.reply.taken = true ↔
      ticket.activation = s.before.activation ∧ s.before.content = none) ∧
    (s.reply.taken = true → s.after = { s.before with content := some (shown fetched) }) ∧
    (s.reply.taken = false → s.after = s.before) := by
  obtain ⟨serial, e, _⟩ := s
  cases event
  simp only [Step.reply, Step.after, step, value_completeHydration]
  split
  · next current => exact ⟨iff_of_true rfl current, fun _ => rfl, by simp⟩
  · next stale => exact ⟨iff_of_false (by simp) stale, by simp, fun _ => rfl⟩

/-- What a step shows is of the document that is active afterwards, if the answers that are taken are
for the active document. -/
private theorem active_of_shows {s : Step σ} {document : DocumentId} {content : Content}
    (shows : s.shows? = some (document, content))
    (own : ∀ ticket fetched, s.event = .completeHydration ticket fetched → s.reply.taken = true →
      s.before.active.map Descriptor.id = some ticket.document) :
    s.after.active.map Descriptor.id = some document := by
  cases leaves : s.event.leaves with
  | true =>
    obtain ⟨serial, e, event⟩ := s
    cases event with
    | «open» d =>
      simp only [Step.shows?, Step.loads?, Option.some.injEq, Prod.mk.injEq] at shows
      simp [Step.after, step, shows.1]
    | activate d => cases shows
    | deactivate => cases shows
    | _ => cases leaves
  | false =>
    rw [Step.after, (active_of_stays s.before s.event leaves).1]
    obtain ⟨serial, e, event⟩ := s
    cases event with
    | hydrate =>
      obtain ⟨ticket, given, same⟩ := Option.map_eq_some_iff.mp shows
      have asked := ticket_step (s := ⟨serial, e, .beginHydration⟩) given
      rw [← (Prod.mk.inj same).1]
      exact asked.2.2
    | completeHydration ticket fetched =>
      simp only [Step.shows?, Step.loads?, Option.ite_none_right_eq_some, Option.some.injEq,
        Prod.mk.injEq] at shows
      rw [← shows.2.1]
      exact own ticket fetched rfl shows.1
    | change m now =>
      cases active : e.active with
      | none => simp [Step.shows?, Step.loads?, active] at shows
      | some d =>
        simp only [Step.shows?, active, Option.ite_none_right_eq_some] at shows
        obtain ⟨made, _, same⟩ := Option.map_eq_some_iff.mp shows.2
        rw [← (Prod.mk.inj same).1, Option.map_some]
    | activate d => cases leaves
    | deactivate => cases leaves
    | «open» d => cases leaves
    | beginHydration => cases shows
    | poll now => cases shows
    | flush => cases shows
    | elsewhere f => cases shows

/-! ### What a visit keeps -/

variable {e : Editor σ} {events : List (Event σ)}

/-- Content that is there stays until the document is left. -/
theorem loaded_of_visit {s : Step σ} (inside : s ∈ steps e events)
    (loaded : s.after.content.isSome = true) (stays : StaysBetween events s.serial events.length) :
    (after e events).content.isSome = true := by
  induction events using List.reverseRecOn with
  | nil => cases inside
  | append_singleton events event ih =>
    rw [staysBetween_concat] at stays
    rw [after_concat]
    rcases mem_steps_concat.mp inside with earlier | rfl
    · have order := serial_lt_of_mem_steps earlier
      obtain ⟨visit, still⟩ := stays.resolve_left (Nat.ne_of_lt order)
      exact (isSome_content_step ⟨events.length, after e events, event⟩).mpr
        (Or.inr ⟨ih earlier visit, still⟩)
    · exact loaded

/-- There is content if and only if a step of the visit loaded it. -/
theorem loaded_iff (fresh : e.content = none) :
    (after e events).content.isSome = true ↔
      ∃ s ∈ steps e events, s.loads?.isSome = true ∧ StaysBetween events s.serial events.length := by
  constructor
  · intro loaded
    induction events using List.reverseRecOn with
    | nil => simp [fresh] at loaded
    | append_singleton events event ih =>
      rw [after_concat] at loaded
      rcases (isSome_content_step ⟨events.length, after e events, event⟩).mp loaded with
        now | ⟨before, stays⟩
      · exact ⟨_, mem_steps_concat.mpr (Or.inr rfl), now, staysBetween_last events event⟩
      · obtain ⟨s, inside, loads, visit⟩ := ih before
        exact ⟨s, mem_steps_append [event] inside, loads,
          staysBetween_concat.mpr (Or.inr ⟨visit, stays⟩)⟩
  · rintro ⟨s, inside, loads, visit⟩
    exact loaded_of_visit inside ((isSome_content_step s).mpr (Or.inl loads)) visit

/-- A ticket is for the activation that goes on if and only if it was given out during the visit. -/
theorem activation_iff {s : Step σ} {ticket : Ticket} (inside : s ∈ steps e events)
    (given : s.reply.ticket = some ticket) :
    ticket.activation = (after e events).activation ↔
      StaysBetween events s.serial events.length := by
  induction events using List.reverseRecOn with
  | nil => cases inside
  | append_singleton events event ih =>
    rw [staysBetween_concat, after_concat]
    rcases mem_steps_concat.mp inside with earlier | rfl
    · have order := serial_lt_of_mem_steps earlier
      have past := (ticket_of_run earlier given).1
      rw [or_iff_right (Nat.ne_of_lt order), ← ih earlier]
      cases leaves : event.leaves with
      | true =>
        rw [activation_of_leaves _ event leaves]
        simp only [Bool.true_eq_false, and_false, iff_false]
        omega
      | false =>
        rw [(active_of_stays _ event leaves).2]
        simp
    · obtain ⟨asked, activation, _⟩ := ticket_step given
      simp only at asked activation
      rw [asked]
      exact ⟨fun _ => Or.inl rfl, fun _ => activation⟩

/-- An answer that is taken is for the active document. -/
private theorem document_of_taken {prior : List (Event σ)} {ticket : Ticket}
    {fetched : Except StoreError Content}
    (own : OwnTickets e (prior ++ [.completeHydration ticket fetched]))
    (current : ticket.activation = (after e prior).activation) :
    (after e prior).active.map Descriptor.id = some ticket.document := by
  obtain ⟨s, inside, given⟩ := own.last
  exact (ticket_of_run inside given).2 current

/-- What is shown is what the last step that showed something showed; it was a step of the visit and
showed the active document. -/
private theorem shown_of_run (fresh : e.content = none) (own : OwnTickets e events)
    {content : Content} (loaded : (after e events).content = some content) :
    ∃ d, (after e events).active = some d ∧ ∃ s ∈ steps e events,
      s.shows? = some (d.id, content) ∧ StaysBetween events s.serial events.length ∧
      ∀ other ∈ steps e events, s.serial < other.serial → other.shows? = none := by
  induction events using List.reverseRecOn with
  | nil => cases fresh.symm.trans loaded
  | append_singleton events event ih =>
    let last : Step σ := ⟨events.length, after e events, event⟩
    have inside : last ∈ steps e (events ++ [event]) := mem_steps_concat.mpr (Or.inr rfl)
    have told := content_step last
    rw [after_concat] at loaded ⊢
    cases shows : last.shows? with
    | some entry =>
      obtain ⟨document, latest⟩ := entry
      rw [shows] at told
      obtain rfl : latest = content := Option.some.inj (told.symm.trans loaded)
      have active := active_of_shows shows fun ticket fetched asked taken => by
        have current := ((completeHydration_step asked).1.mp taken).1
        simp only [last] at asked
        rw [asked] at own
        exact document_of_taken own current
      obtain ⟨d, there, rfl⟩ := Option.map_eq_some_iff.mp active
      refine ⟨d, there, last, inside, shows, staysBetween_last events event, ?_⟩
      intro other member later
      have bound := serial_lt_of_mem_steps member
      simp only [List.length_append, List.length_singleton, last] at bound later
      omega
    | none =>
      rw [shows] at told
      cases leaves : event.leaves with
      | true =>
        simp only [last, leaves, ↓reduceIte] at told
        cases told.symm.trans loaded
      | false =>
        have kept : (after e events).content = some content := by
          simp only [last, leaves, Bool.false_eq_true, ↓reduceIte] at told
          exact told.symm.trans loaded
        obtain ⟨d, there, s, earlier, shown, visit, silent⟩ := ih own.front kept
        rw [(active_of_stays _ event leaves).1]
        refine ⟨d, there, s, mem_steps_append [event] earlier, shown,
          staysBetween_concat.mpr (Or.inr ⟨visit, leaves⟩), ?_⟩
        intro other member later
        rcases mem_steps_concat.mp member with before | rfl
        · exact silent other before later
        · exact shows

/-! ### Runs -/

/-- A run loads its documents safely. -/
structure HydratesSafely (e : Editor σ) (events : List (Event σ)) : Prop where
  /-- An answer is taken if and only if its ticket was given out during the visit that goes on and no
  step of the visit has loaded the document yet. -/
  taken : ∀ s ∈ steps e events, ∀ ticket fetched, s.event = .completeHydration ticket fetched →
    (s.reply.taken = true ↔
      (∃ given ∈ steps e events, given.reply.ticket = some ticket ∧
        StaysBetween events given.serial s.serial) ∧
      ∀ other ∈ steps e events, other.loads?.isSome = true →
        ¬ StaysBetween events other.serial s.serial)
  /-- An answer that is taken is for the active document and becomes its content. -/
  filled : ∀ s ∈ steps e events, ∀ ticket fetched, s.event = .completeHydration ticket fetched →
    s.reply.taken = true → s.before.active.map Descriptor.id = some ticket.document ∧
      s.after = { s.before with content := some (shown fetched) }
  /-- An answer that is not taken changes nothing. -/
  refused : ∀ s ∈ steps e events, ∀ ticket fetched, s.event = .completeHydration ticket fetched →
    s.reply.taken = false → s.after = s.before
  /-- During a visit the document is loaded once. -/
  once : ∀ first ∈ steps e events, ∀ second ∈ steps e events, first.loads?.isSome = true →
    second.loads?.isSome = true → StaysBetween events first.serial second.serial →
    second.event.leaves = true
  /-- No answer takes the place of an edit. -/
  late : ∀ change ∈ steps e events, (∃ m now, change.event = .change m now) →
    change.reply.taken = true → ∀ s ∈ steps e events, ∀ ticket fetched,
    s.event = .completeHydration ticket fetched → StaysBetween events change.serial s.serial →
    s.reply.taken = false
  /-- What is shown in the end is what the last step that showed something showed: it was a step of the
  visit that goes on, and it showed the active document. -/
  shown : ∀ content, (after e events).content = some content →
    ∃ d, (after e events).active = some d ∧ ∃ s ∈ steps e events,
      s.shows? = some (d.id, content) ∧ StaysBetween events s.serial events.length ∧
      ∀ other ∈ steps e events, s.serial < other.serial → other.shows? = none

/-- A step that loads or edits leaves content for the rest of the visit. -/
private theorem loaded_of_earlier {first second : Step σ} (one : first ∈ steps e events)
    (two : second ∈ steps e events) (stays : StaysBetween events first.serial second.serial)
    (loaded : first.after.content.isSome = true) : second.before.content.isSome = true := by
  obtain ⟨prior, _, _, found, same⟩ := visit_of_step two
  obtain ⟨earlier, visit⟩ := (same first).mp ⟨one, stays⟩
  rw [found]
  exact loaded_of_visit earlier loaded visit

private theorem taken_iff (fresh : e.content = none) (own : OwnTickets e events) {s : Step σ}
    (inside : s ∈ steps e events) {ticket : Ticket} {fetched : Except StoreError Content}
    (event : s.event = .completeHydration ticket fetched) :
    s.reply.taken = true ↔
      (∃ given ∈ steps e events, given.reply.ticket = some ticket ∧
        StaysBetween events given.serial s.serial) ∧
      ∀ other ∈ steps e events, other.loads?.isSome = true →
        ¬ StaysBetween events other.serial s.serial := by
  obtain ⟨prior, later, split, found, same⟩ := visit_of_step inside
  rw [(completeHydration_step event).1, found]
  refine and_congr ?_ ?_
  · constructor
    · intro current
      obtain ⟨given, earlier, ticketed⟩ := own prior ticket fetched later (event ▸ split)
      have visit := (activation_iff earlier ticketed).mp current
      obtain ⟨member, stays⟩ := (same given).mpr ⟨earlier, visit⟩
      exact ⟨given, member, ticketed, stays⟩
    · rintro ⟨given, member, ticketed, stays⟩
      obtain ⟨earlier, visit⟩ := (same given).mp ⟨member, stays⟩
      exact (activation_iff earlier ticketed).mpr visit
  · rw [← Option.not_isSome_iff_eq_none, loaded_iff fresh]
    constructor
    · intro unloaded other member loads stays
      obtain ⟨earlier, visit⟩ := (same other).mp ⟨member, stays⟩
      exact unloaded ⟨other, earlier, loads, visit⟩
    · rintro unloaded ⟨other, earlier, loads, visit⟩
      obtain ⟨member, stays⟩ := (same other).mpr ⟨earlier, visit⟩
      exact unloaded other member loads stays

/-- Only opening a document loads one when there is content. -/
private theorem leaves_of_loads {s : Step σ} (loads : s.loads?.isSome = true)
    (there : s.before.content.isSome = true) : s.event.leaves = true := by
  obtain ⟨serial, e, event⟩ := s
  obtain ⟨content, present⟩ := Option.isSome_iff_exists.mp there
  simp only at present
  cases event with
  | «open» d => rfl
  | hydrate => simp [Step.loads?, beginHydration, present] at loads
  | completeHydration ticket fetched =>
    simp [Step.loads?, Step.reply, step, value_completeHydration, present] at loads
  | _ => cases loads

/-- With the editor's own tickets, whenever the answers come, how often and in whatever order: one is
taken if and only if the document that it is for was not left since and has not been loaded, and what is
shown is always the active document's. -/
theorem hydration_is_safe (library : Library σ) (window : Nat) (events : List (Event σ))
    (own : OwnTickets (ofLibrary library window) events) :
    HydratesSafely (ofLibrary library window) events where
  taken s inside ticket fetched event := taken_iff rfl own inside event
  filled s inside ticket fetched event taken := by
    obtain ⟨current, filled, _⟩ := completeHydration_step event
    obtain ⟨prior, later, rfl, found, _⟩ := mem_steps.mp inside
    rw [event, List.append_cons] at own
    refine ⟨?_, filled taken⟩
    rw [found]
    exact document_of_taken own.front (found ▸ (current.mp taken).1)
  refused s inside ticket fetched event refused := (completeHydration_step event).2.2 refused
  once first one second two loads again stays :=
    leaves_of_loads again
      (loaded_of_earlier one two stays ((isSome_content_step first).mpr (Or.inl loads)))
  late change one edits accepted s two ticket fetched event stays := by
    obtain ⟨m, now, asked⟩ := edits
    rw [taken_change asked] at accepted
    obtain ⟨edit, entered⟩ := Option.isSome_iff_exists.mp accepted
    have shown := (takes_of_edit? entered).1.text
    have there := loaded_of_earlier one two stays (by simpa using congrArg Option.isSome shown)
    by_contra taken
    rw [Bool.not_eq_false, (completeHydration_step event).1] at taken
    simp [taken.2] at there
  shown content loaded := shown_of_run rfl own loaded

/-- Tickets of two visits and of a third to the first document again; the answers come late, twice and out
of order. -/
def lateAnswers : List (Event MemoryRecords) :=
  [.activate sample, .beginHydration, .activate otherSample, .beginHydration,
    .completeHydration ⟨sample.id, 1⟩ (.ok .emptyScene),
    .completeHydration ⟨otherSample.id, 2⟩ (.error .offline),
    .completeHydration ⟨otherSample.id, 2⟩ (.ok .emptyScene), .activate sample, .beginHydration,
    .completeHydration ⟨sample.id, 1⟩ (.ok .emptyScene),
    .completeHydration ⟨sample.id, 3⟩ (.ok .emptyScene)]

theorem lateAnswers_safe :
    OwnTickets blank lateAnswers ∧ HydratesSafely blank lateAnswers ∧
      (steps blank lateAnswers).map (·.reply.taken) =
        [false, false, false, false, false, true, false, false, false, false, true] :=
  ⟨by decide +kernel, hydration_is_safe _ _ _ (by decide +kernel), by decide +kernel⟩

end Sketchbook.Editor
