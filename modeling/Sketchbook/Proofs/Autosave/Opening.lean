import Sketchbook.Proofs.Autosave.Tickets

/-!
Opening. Whatever an editor has been used for and whatever its store answers, a document that is opened is
there at once, with what its record says or else empty; nothing waits, nothing is stored, and no ticket of
the time before is good any more (`opening_always_succeeds`).
-/
namespace Sketchbook

namespace Library

variable {σ : Type} [Records σ] {l : Library σ} {id : DocumentId} {content : Content}

/-- The record of a document holds the text of a content. -/
def Recorded (l : Library σ) (id : DocumentId) (content : Content) : Prop :=
  ∃ text, Records.get l.records id.text = .ok (some text) ∧ Content.ofText text = .ok content

/-- What is recorded is what the library gives. -/
theorem get_of_recorded (recorded : l.Recorded id content) : l.get id = .ok content := by
  obtain ⟨text, read, parsed⟩ := recorded
  simp [get, read, parsed, bind, Except.bind]

/-- What the library gives is recorded, or it is the empty scene of a document without a record. -/
theorem recorded_of_get (given : l.get id = .ok content) :
    l.Recorded id content ∨ content = .emptyScene := by
  cases read : Records.get l.records id.text with
  | error error => simp [get, read, bind, Except.bind] at given
  | ok record =>
    simp only [get, read, bind, Except.bind] at given
    cases record with
    | none => exact Or.inr (Except.ok.inj given).symm
    | some text => exact Or.inl ⟨text, read, given⟩

end Library

namespace Editor

variable {σ : Type} [Records σ]

/-- A document was opened: `after` is what the opening made of `before`. -/
structure OpenedAs (before after : Editor σ) (d : Descriptor) : Prop where
  /-- What the record holds is shown. -/
  recorded : ∀ content, before.library.Recorded d.id content → after.content = some content
  /-- Where there is no record, or none that can be read as content, the empty scene is shown. -/
  unread : (∀ content, ¬ before.library.Recorded d.id content) → after.content = some .emptyScene
  active : after.active = some d
  phase : after.phase = .hydrated
  idle : after.waiting.entries = []
  stored : after.library = before.library

/-! ### The answer of the store -/

/-- Whatever is not recorded is shown as the empty scene: no record, no content, no answer. -/
theorem shown_of_unrecorded {library : Library σ} {id : DocumentId}
    (unread : ∀ content, ¬ library.Recorded id content) : shown (library.get id) = .emptyScene := by
  cases given : library.get id with
  | error error => rfl
  | ok content => exact (Library.recorded_of_get given).resolve_left (unread content)

/-- What opening a document comes to. -/
theorem openedAs_open (e : Editor σ) (d : Descriptor) : OpenedAs e (e.open d).value d := by
  rw [value_open]
  refine ⟨?_, ?_, rfl, rfl, rfl, rfl⟩
  · intro content recorded
    rw [Library.get_of_recorded recorded]
    rfl
  · intro unread
    rw [shown_of_unrecorded unread]

/-! ### Tickets of the time before -/

/-- The number of the activation never goes back. -/
theorem activation_le_after (e : Editor σ) (events : List (Event σ)) :
    e.activation ≤ (after e events).activation := by
  induction events using List.reverseRecOn with
  | nil => exact Nat.le_refl _
  | append_singleton events event ih =>
    rw [after_concat]
    cases leaves : event.leaves with
    | true =>
      rw [activation_of_leaves _ event leaves]
      exact Nat.le_succ_of_le ih
    | false =>
      rw [(active_of_stays _ event leaves).2]
      exact ih

/-- A ticket that was given out before the document was left is for an activation that is over, however
the run goes on. -/
theorem activation_lt_of_left {e : Editor σ} {events : List (Event σ)} {s : Step σ} {ticket : Ticket}
    (inside : s ∈ steps e events) (given : s.reply.ticket = some ticket) {event : Event σ}
    (leaves : event.leaves = true) (later : List (Event σ)) :
    ticket.activation < (after e (events ++ event :: later)).activation := by
  rw [List.append_cons, after_append, after_concat]
  calc ticket.activation ≤ (after e events).activation := (ticket_of_run inside given).1
    _ < ((after e events).step event).2.activation := by
      rw [activation_of_leaves _ event leaves]
      exact Nat.lt_succ_self _
    _ ≤ (after ((after e events).step event).2 later).activation := activation_le_after _ later

omit [Records σ] in
/-- An answer for an activation that is over is dropped. -/
theorem value_completeHydration_of_over {e : Editor σ} {ticket : Ticket}
    (past : ticket.activation < e.activation) (fetched : Except StoreError Content) :
    (e.completeHydration ticket fetched).value = (false, e) := by
  rw [value_completeHydration, if_neg fun current => Nat.ne_of_lt past current.1]

/-- After any calls, with any document active, edits waiting and tickets given out, and with any store,
opening a document loads it; and an answer for a ticket that was given out before is dropped, at once and
whatever is done in between. -/
theorem opening_always_succeeds (e : Editor σ) (events : List (Event σ)) (d : Descriptor) :
    OpenedAs (after e events) ((after e events).open d).value d ∧
      ∀ s ∈ steps e events, ∀ ticket, s.reply.ticket = some ticket → ∀ later fetched,
        ((after e (events ++ .open d :: later)).completeHydration ticket fetched).value =
          (false, after e (events ++ .open d :: later)) := by
  refine ⟨openedAs_open _ d, fun s inside ticket given later fetched => ?_⟩
  exact value_completeHydration_of_over (activation_lt_of_left inside given rfl later) fetched

/-- A ticket is given out for a document, which is then loaded, edited and opened again over a record
that is no JSON. -/
def spoiltRecord : List (Event MemoryRecords) :=
  [.activate sample, .beginHydration, .hydrate, .change (.integer 1) 0,
    .elsewhere fun records => { records with entries := records.entries.insert "a" "[1" }]

theorem spoiltRecord_opened :
    ((after blank spoiltRecord).open sample).value.content = some .emptyScene ∧
      (after blank spoiltRecord).waiting.isEmpty = false ∧
      ((after blank (spoiltRecord ++ [.open sample, .flush])).completeHydration ⟨sample.id, 1⟩
        (.ok ⟨.null⟩)).value.1 = false := by
  obtain ⟨opened, stale⟩ := opening_always_succeeds blank spoiltRecord sample
  have held : Records.get (after blank spoiltRecord).library.records sample.id.text =
      .ok (some "[1") := rfl
  have spoilt : (Content.ofText "[1").toOption.isNone = true := by decide +kernel
  refine ⟨opened.unread fun content recorded => ?_, by decide +kernel, ?_⟩
  · obtain ⟨text, read, parsed⟩ := recorded
    obtain rfl := Option.some.inj (Except.ok.inj (held.symm.trans read))
    rw [parsed] at spoilt
    cases spoilt
  · have given : (⟨1, after blank [.activate sample], .beginHydration⟩ : Step MemoryRecords) ∈
        steps blank spoiltRecord := mem_steps.mpr ⟨[.activate sample], _, rfl, rfl, rfl⟩
    rw [stale _ given ⟨sample.id, 1⟩ (by decide +kernel) [.flush]]

end Editor

end Sketchbook
