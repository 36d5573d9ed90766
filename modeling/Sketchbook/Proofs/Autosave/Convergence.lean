import Sketchbook.Proofs.Autosave.Fates
import Sketchbook.Proofs.Autosave.Tickets
import Sketchbook.Proofs.Store.Texts

/-!
What the user sees and what is stored. As long as every write succeeds, the last edit is the last to
wait, and when none waits any more its text is the one in the store (`memory_and_store_converge`).
-/
namespace Sketchbook.Editor

variable {σ : Type} [Records σ]

/-- Without an edit, content that is there stays until the document is left. -/
private theorem content_of_stays {s : Step σ} (stays : s.event.leaves = false)
    (unedited : s.edit? = none) (loaded : s.before.content.isSome = true) :
    s.after.content = s.before.content := by
  obtain ⟨serial, e, event⟩ := s
  obtain ⟨content, there⟩ := Option.isSome_iff_exists.mp loaded
  simp only at there
  cases event with
  | activate d => cases stays
  | deactivate => cases stays
  | «open» d => cases stays
  | hydrate => simp [Step.after, step, value_hydrate, there]
  | beginHydration => rfl
  | completeHydration ticket fetched =>
    simp [Step.after, step, value_completeHydration, there]
  | change m now =>
    rcases change_cases serial e m now with ⟨_, refused⟩ | ⟨_, _, _, _, _, taken, _⟩
    · simp only [Step.after, step, refused]
    · cases unedited.symm.trans taken
  | poll now => rfl
  | flush =>
    simp only [Step.after, step, value_flush]
    split <;> rfl
  | elsewhere f => rfl

variable [KeepsTexts σ]

/-- A stretch of a run since the last activation or later: the answers are for the run's own tickets,
nobody else changes a text in the store, every write succeeded and an edit was taken. -/
structure Saving (e : Editor σ) (before since : List (Event σ)) : Prop where
  last : ∀ event ∈ since, event.activates = false
  own : OwnTickets e (before ++ since)
  alone : ∀ f, .elsewhere f ∈ since → ∀ records key, stored (f records) key = stored records key
  saved : ∀ s ∈ steps e (before ++ since), before.length ≤ s.serial →
    ∀ outcome ∈ s.reply.outcomes, outcome.result = .ok ()
  edited : ∃ s ∈ steps e (before ++ since), before.length ≤ s.serial ∧
    ∃ m now, s.event = .change m now ∧ s.reply.taken = true

/-- Memory and store have converged: while an edit waits, the last edit of all is the last that waits
and is what the user sees, and when none waits, what the user sees is what is stored. -/
structure Converged (e : Editor σ) (taken : List Edit) : Prop where
  waits : e.phase = .dirty → ∃ d content edit, e.active = some d ∧ e.content = some content ∧
    taken.getLast? = some edit ∧ e.waiting.latest? d.id = some edit.waiting ∧
    edit.waiting.payload = content.toText
  stored : e.phase = .hydrated → ∃ d content, e.active = some d ∧ e.content = some content ∧
    stored e.library.records d.id.text = some content.toText

/-- When the last put succeeds, its text is what the store answers afterwards. -/
theorem get_of_puts {records final : σ} {document : DocumentId} {text : String}
    (puts : Puts records (due ++ [(document, text)]) answers final)
    (ok : ∀ answer, answers.getLast? = some answer → answer.result = .ok ()) :
    Records.get final document.text = .ok (some text) := by
  induction due generalizing records answers with
  | nil =>
    cases puts with
    | saved answer more =>
      cases more
      exact get_of_put answer
    | refused answer more =>
      cases more
      cases ok _ rfl
  | cons entry rest ih =>
    have later {answers : List WriteOutcome} {one : WriteOutcome} {changed : σ}
        (more : Puts changed (rest ++ [(document, text)]) answers final)
        (ok : ∀ answer, (one :: answers).getLast? = some answer → answer.result = .ok ()) :
        Records.get final document.text = .ok (some text) := by
      refine ih more fun answer last => ok answer ?_
      rw [List.getLast?_cons, last]
      rfl
    cases puts with
    | saved answer more => exact later more ok
    | refused answer more => exact later more ok

/-- The last edit is what the user sees. It waits after all others, or none waits and its text is
stored. -/
structure Ledger.Follows (l : Ledger) (e : Editor σ) (last : Edit) : Prop where
  active : e.active.map Descriptor.id = some last.document
  content : e.content.map Content.toText = some last.text
  saved : l.pending.getLast? = some last ∨
    l.pending = [] ∧ stored e.library.records last.document.text = some last.text

namespace Ledger

/-- A collection of all that waits stores the last edit, if that is not stored already. -/
private theorem stored_of_moved {l : Ledger} {s : Step σ} {last : Edit}
    (follows : l.Follows s.before last) (agrees : l.Agrees s.before)
    (own : s.event.isElsewhere = false) (moved : (l.record s).written = l.written ++ l.pending)
    (ok : ∀ outcome ∈ s.reply.outcomes, outcome.result = .ok ()) :
    stored s.after.library.records last.document.text = some last.text := by
  have puts := puts_of_step s own
  rw [agrees.attempts_of_moved moved] at puts
  rcases follows.saved with waits | ⟨nothing, held⟩
  · obtain ⟨front, shape⟩ := List.getLast?_eq_some_iff.mp waits
    rw [shape, List.map_append] at puts
    exact stored_of_get (get_of_puts puts fun answer last => ok answer (List.mem_of_getLast? last))
  · rw [nothing] at puts
    generalize s.after.library.records = final, s.reply.outcomes = answers at puts ⊢
    cases puts
    exact held

/-- What an event without an edit leaves of this, when its writes succeed. -/
theorem Follows.record {l : Ledger} {s : Step σ} {last : Edit} (follows : l.Follows s.before last)
    (agrees : l.Agrees s.before) (stays : s.event.leaves = false) (unedited : s.edit? = none)
    (alone : ∀ f, s.event = .elsewhere f → ∀ records key, stored (f records) key = stored records key)
    (ok : ∀ outcome ∈ s.reply.outcomes, outcome.result = .ok ()) :
    (l.record s).Follows s.after last := by
  have loaded : s.before.content.isSome = true := by
    simpa using congrArg Option.isSome follows.content
  have active : s.after.active = s.before.active := (active_of_stays s.before s.event stays).1
  have content := content_of_stays stays unedited loaded
  have held := stored_of_moved follows agrees
  refine ⟨by rw [active, follows.active], by rw [content, follows.content], ?_⟩
  obtain ⟨serial, e, event⟩ := s
  cases event with
  | activate d => cases stays
  | deactivate => cases stays
  | «open» d => cases stays
  | hydrate =>
    have same : (Step.after ⟨serial, e, .hydrate⟩).library = e.library := by
      simp only [Step.after, step, value_hydrate]
      split <;> rfl
    rw [same]
    exact follows.saved
  | beginHydration => exact follows.saved
  | completeHydration ticket fetched =>
    have same : (Step.after ⟨serial, e, .completeHydration ticket fetched⟩).library = e.library := by
      simp only [Step.after, step, value_completeHydration]
      split <;> rfl
    rw [same]
    exact follows.saved
  | change m now =>
    rcases change_cases serial e m now with ⟨_, refused⟩ | ⟨_, _, _, _, _, taken, _⟩
    · simpa only [Ledger.record, unedited, Step.after, step, refused] using follows.saved
    · cases unedited.symm.trans taken
  | poll now =>
    rcases List.eq_nil_or_concat' l.pending with nothing | ⟨before, previous, parts⟩
    · have same : l.record ⟨serial, e, .poll now⟩ = l := by simp [Ledger.record, collect, nothing]
      rw [same] at held ⊢
      exact Or.inr ⟨nothing, held rfl (by rw [nothing, List.append_nil]) ok⟩
    · by_cases due : previous.deadline ≤ now
      · have moved : (l.collect now).written = l.written ++ l.pending := by
          simp [collect, parts, due]
        exact Or.inr ⟨by simp [Ledger.record, collect, parts, due], held rfl moved ok⟩
      · obtain rfl : previous = last := by simpa [parts] using follows.saved
        exact Or.inl (by simp [Ledger.record, collect, parts, due])
  | flush => exact Or.inr ⟨rfl, held rfl rfl ok⟩
  | elsewhere f =>
    rcases follows.saved with waits | ⟨nothing, text⟩
    · exact Or.inl waits
    · exact Or.inr ⟨nothing, (alone f rfl e.library.records last.document.text).trans text⟩

/-- A new edit is what the user sees, and it waits after all others. -/
private theorem follows_edit (l : Ledger) {s : Step σ} {edit : Edit}
    (entered : s.edit? = some edit) : (l.record s).Follows s.after edit := by
  obtain ⟨m, event, _⟩ := (takes_of_edit? entered).1.accepted
  have takes := (takes_of_edit? entered).1
  have stays : s.event.leaves = false := by rw [event]; rfl
  have active : s.after.active = s.before.active := (active_of_stays s.before s.event stays).1
  refine ⟨by rw [active, takes.document], takes.text, Or.inl ?_⟩
  have waits : (l.record s).pending = (l.take edit).pending := by
    unfold Ledger.record
    rw [event]
    simp only [entered]
  rw [waits]
  rcases List.eq_nil_or_concat' l.pending with nothing | ⟨before, previous, parts⟩
  · simp [take, nothing]
  · by_cases inside : edit.time < previous.deadline <;> simp [take, parts, inside]

end Ledger

variable {e : Editor σ} {before since : List (Event σ)}

/-- After an edit, what the user sees follows the last edit until the document is left. -/
private theorem follows_of_saving (idle : e.waiting.isEmpty = true) (saving : Saving e before since) :
    (after e (before ++ since)).active = none ∨
      ∃ edit, (edits e (before ++ since)).getLast? = some edit ∧
        (ledger e (before ++ since)).Follows (after e (before ++ since)) edit := by
  induction since using List.reverseRecOn with
  | nil =>
    obtain ⟨s, inside, late, _⟩ := saving.edited
    have early := serial_lt_of_mem_steps inside
    rw [List.append_nil] at early
    omega
  | append_singleton since event ih =>
    obtain ⟨last, own, alone, saved, s, inside, late, m, now, change, accepted⟩ := saving
    rw [← List.append_assoc] at own saved inside ⊢
    rw [after_concat, ledger_concat, edits_concat]
    rw [steps_concat] at saved inside
    cases entered : Step.edit? ⟨(before ++ since).length, after e (before ++ since), event⟩ with
    | some edit => exact Or.inr ⟨edit, by simp, Ledger.follows_edit _ entered⟩
    | none =>
      have earlier : s ∈ steps e (before ++ since) := by
        rcases List.mem_append.mp inside with earlier | self
        · exact earlier
        · rw [List.mem_singleton] at self
          rw [taken_change change, self, entered] at accepted
          cases accepted
      have still := ih ⟨fun event member => last event (List.mem_append_left _ member), own.front,
        fun f member => alone f (List.mem_append_left _ member),
        fun s member => saved s (List.mem_append_left _ member),
        s, earlier, late, m, now, change, accepted⟩
      have stays := last event (by simp)
      cases leaves : event.leaves with
      | true =>
        cases event with
        | deactivate => exact Or.inl rfl
        | activate d => cases stays
        | «open» d => cases stays
        | _ => cases leaves
      | false =>
        rw [(active_of_stays _ event leaves).1]
        refine still.imp id fun ⟨edit, latest, follows⟩ => ⟨edit, by simpa using latest, ?_⟩
        refine follows.record (s := ⟨(before ++ since).length, after e (before ++ since), event⟩)
          (ledger_agrees idle _) leaves entered ?_ ?_
        · rintro f rfl
          exact alone f (by simp)
        · exact saved _ (by simp) (by simp)

private theorem converged_of_follows {l : Ledger} {edit : Edit} (agrees : l.Agrees e)
    (follows : l.Follows e edit) (latest : taken.getLast? = some edit) : Converged e taken := by
  obtain ⟨d, active, named⟩ := Option.map_eq_some_iff.mp follows.active
  obtain ⟨content, loaded, shown⟩ := Option.map_eq_some_iff.mp follows.content
  have waiting : e.waiting.isEmpty = l.pending.isEmpty := by
    rw [QuietQueue.isEmpty, agrees.pending_is_waiting, List.isEmpty_map]
  constructor
  case waits =>
    intro dirty
    refine ⟨d, content, edit, active, loaded, latest, ?_, shown.symm⟩
    rcases follows.saved with waits | ⟨nothing, _⟩
    · rw [agrees.queue d active, QuietQueue.latest_ofKey, List.getLast?_map, waits]
      rfl
    · simp [phase, loaded, waiting, nothing] at dirty
  case stored =>
    intro hydrated
    refine ⟨d, content, active, loaded, ?_⟩
    rcases follows.saved with waits | ⟨_, held⟩
    · have nonempty : l.pending ≠ [] := fun nothing => by simp [nothing] at waits
      simp [phase, loaded, waiting, nonempty] at hydrated
    · rw [named, shown]
      exact held

/-- If since the last activation an edit was taken and every write succeeded, then whatever else was
called, and with whatever times, memory and store have converged. -/
theorem memory_and_store_converge (library : Library σ) (window : Nat)
    (before since : List (Event σ)) (saving : Saving (ofLibrary library window) before since) :
    Converged (after (ofLibrary library window) (before ++ since))
      (edits (ofLibrary library window) (before ++ since)) := by
  have agrees := ledger_agrees (e := ofLibrary library window) rfl (before ++ since)
  rcases follows_of_saving rfl saving with left | ⟨edit, latest, follows⟩
  · have unloaded : (after (ofLibrary library window) (before ++ since)).content = none := by
      have named := active_of_content (e := ofLibrary library window) (by simp [ofLibrary]) saving.own
      simpa [left] using named
    exact ⟨fun dirty => by simp [phase, unloaded] at dirty,
      fun hydrated => by simp [phase, unloaded] at hydrated⟩
  · exact converged_of_follows agrees follows latest

/-- A document that is loaded by a ticket, two edits with a poll between them at times that go back,
a late poll, and a store that is switched off in the end. -/
def savedCalls : List (Event MemoryRecords) :=
  [.completeHydration ⟨sample.id, 1⟩ (.ok .emptyScene), .change (.integer 1) 7, .poll 3,
    .change (.integer 2) 5, .poll 20, .elsewhere fun records => { records with available := false }]

private theorem saving_savedCalls :
    Saving blank [.activate sample, .beginHydration] savedCalls where
  last := by simp [savedCalls, Event.activates]
  own before ticket fetched later split := by
    have first : before = [.activate sample, .beginHydration] ∧ ticket = ⟨sample.id, 1⟩ := by
      simp [savedCalls, List.cons_eq_append_iff] at split
      exact ⟨split.1, split.2.1.1⟩
    rw [first.1, first.2]
    exact ⟨⟨1, _, .beginHydration⟩, List.mem_cons_of_mem _ List.mem_cons_self, rfl⟩
  alone f inside := by
    have self : f = fun records => { records with available := false } := by
      simpa [savedCalls] using inside
    rw [self]
    exact fun _ _ => rfl
  saved s inside _ outcome reported := by
    have all : outcome ∈ outcomes blank ([.activate sample, .beginHydration] ++ savedCalls) :=
      List.mem_flatMap.mpr ⟨s, inside, reported⟩
    have one : outcome ∈ [⟨sample.id, .ok ()⟩] := all
    rw [List.mem_singleton.mp one]
  edited := ⟨⟨3, _, .change (.integer 1) 7⟩, List.mem_of_getElem? (i := 3) rfl, by decide,
    .integer 1, 7, rfl, rfl⟩

theorem savedCalls_converge :
    Saving blank [.activate sample, .beginHydration] savedCalls ∧
    (after blank ([.activate sample, .beginHydration] ++ savedCalls)).phase = .hydrated ∧
    Converged (after blank ([.activate sample, .beginHydration] ++ savedCalls))
      (edits blank ([.activate sample, .beginHydration] ++ savedCalls)) :=
  ⟨saving_savedCalls, by decide, memory_and_store_converge _ _ _ _ saving_savedCalls⟩

end Sketchbook.Editor
