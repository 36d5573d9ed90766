import Sketchbook.Proofs.Autosave.Run

/-!
Outages of the store. Two runs with the same calls look the same to their host, whatever happens to
the store in the one and in the other: they differ in the results of the writes and in what is stored
(`outages_stay_unseen`). Calls that read the store are left out, for they show what they read.
-/
namespace Sketchbook.Editor

/-- Whether a call reads the store. -/
def Event.reads : Event σ → Bool
  | .open _ | .hydrate => true
  | _ => false

/-- An event that switches a store in memory on or off. -/
def Event.switch (available : Bool) : Event MemoryRecords :=
  .elsewhere fun records => { records with available }

/-- The calls among events: what the host does, without what happens elsewhere. -/
def ownCalls (events : List (Event σ)) : List (Event σ) := events.filter (!·.isElsewhere)

/-- Two editors that differ at most in their stores. -/
structure Alike (e f : Editor σ) : Prop where
  active : e.active = f.active
  content : e.content = f.content
  waiting : e.waiting = f.waiting
  activation : e.activation = f.activation

/-- What the host sees of a call: how the editor is left, and what was answered but for the results of
the writes. -/
structure Observation where
  active : Option Descriptor
  content : Option Content
  phase : Phase
  pending : Bool
  deadline : Option Nat
  taken : Bool
  ticket : Option Ticket
  attempts : List (DocumentId × String)
  /-- The documents of the outcomes. -/
  documents : List DocumentId

variable {σ : Type} [Records σ]

def Step.observed (s : Step σ) : Observation where
  active := s.after.active
  content := s.after.content
  phase := s.after.phase
  pending := !s.after.waiting.isEmpty
  deadline := s.after.waiting.nextDeadline
  taken := s.reply.taken
  ticket := s.reply.ticket
  attempts := s.reply.attempts
  documents := s.reply.outcomes.map WriteOutcome.document

/-- What the host sees of its calls in a run. -/
def observations (e : Editor σ) (events : List (Event σ)) : List Observation :=
  ((steps e events).filter (!·.event.isElsewhere)).map Step.observed

/-! ### Single calls -/

omit [Records σ] in
theorem Alike.refl (e : Editor σ) : Alike e e := ⟨rfl, rfl, rfl, rfl⟩

omit [Records σ] in
theorem Alike.trans {e f g : Editor σ} (first : Alike e f) (second : Alike f g) : Alike e g where
  active := first.active.trans second.active
  content := first.content.trans second.content
  waiting := first.waiting.trans second.waiting
  activation := first.activation.trans second.activation

omit [Records σ] in
theorem Alike.symm {e f : Editor σ} (alike : Alike e f) : Alike f e :=
  ⟨alike.active.symm, alike.content.symm, alike.waiting.symm, alike.activation.symm⟩

/-- A call that does not read the store does the same to editors that differ in their stores, and its
answers are the same. -/
private theorem alike_step {s t : Step σ} (alike : Alike s.before t.before) (same : s.event = t.event)
    (blind : s.event.reads = false) (calls : s.event.isElsewhere = false) :
    Alike s.after t.after ∧ s.reply.taken = t.reply.taken ∧ s.reply.ticket = t.reply.ticket ∧
      s.reply.attempts = t.reply.attempts := by
  obtain ⟨serial, ⟨library, active, content, waiting, activation⟩, event⟩ := s
  obtain ⟨serial', ⟨other, active', content', waiting', activation'⟩, event'⟩ := t
  obtain rfl : event = event' := same
  obtain ⟨rfl, rfl, rfl, rfl⟩ : active = active' ∧ content = content' ∧ waiting = waiting' ∧
    activation = activation' := ⟨alike.active, alike.content, alike.waiting, alike.activation⟩
  cases event with
  | activate d => exact ⟨⟨rfl, rfl, rfl, rfl⟩, rfl, rfl, rfl⟩
  | deactivate => exact ⟨⟨rfl, rfl, rfl, rfl⟩, rfl, rfl, rfl⟩
  | «open» d => cases blind
  | hydrate => cases blind
  | beginHydration => exact ⟨⟨rfl, rfl, rfl, rfl⟩, rfl, rfl, rfl⟩
  | completeHydration ticket fetched =>
    refine ⟨⟨?_, ?_, ?_, ?_⟩, ?_, rfl, rfl⟩ <;>
      simp only [Step.after, Step.reply, step, value_completeHydration] <;> split <;> rfl
  | change m now =>
    refine ⟨⟨?_, ?_, ?_, ?_⟩, ?_, rfl, rfl⟩ <;>
      simp only [Step.after, Step.reply, step, value_change] <;> split <;> rfl
  | poll now => exact ⟨⟨rfl, rfl, rfl, rfl⟩, rfl, rfl, rfl⟩
  | flush =>
    refine ⟨⟨?_, ?_, ?_, ?_⟩, rfl, rfl, rfl⟩ <;>
      simp only [Step.after, step, value_flush] <;> split <;> rfl
  | elsewhere f => cases calls

private theorem observed_eq {s t : Step σ} (alike : Alike s.before t.before)
    (same : s.event = t.event) (blind : s.event.reads = false)
    (calls : s.event.isElsewhere = false) : s.observed = t.observed := by
  obtain ⟨left, taken, ticket, attempts⟩ := alike_step alike same blind calls
  have documents := (puts_of_step s calls).documents
  rw [attempts, ← (puts_of_step t (same ▸ calls)).documents] at documents
  simp only [Step.observed, taken, ticket, attempts, documents, phase, left.active, left.content,
    left.waiting]

/-! ### Runs -/

/-- A run looks as if nothing had happened elsewhere. -/
private theorem run_alike {e f : Editor σ} (alike : Alike e f) {events : List (Event σ)}
    (blind : ∀ event ∈ events, event.reads = false) :
    Alike (after e events) (after f (ownCalls events)) ∧
      observations e events = observations f (ownCalls events) := by
  induction events using List.reverseRecOn with
  | nil => exact ⟨alike, rfl⟩
  | append_singleton events event ih =>
    obtain ⟨left, seen⟩ := ih fun event member => blind event (List.mem_append_left _ member)
    have last := blind event (by simp)
    cases calls : event.isElsewhere with
    | true =>
      have shape : ownCalls (events ++ [event]) = ownCalls events := by simp [ownCalls, calls]
      have unseen : observations e (events ++ [event]) = observations e events := by
        simp [observations, calls]
      have moved : Alike (after e (events ++ [event])) (after e events) := by
        rw [after_concat]
        cases event with
        | elsewhere f => exact ⟨rfl, rfl, rfl, rfl⟩
        | _ => cases calls
      rw [shape, unseen]
      exact ⟨moved.trans left, seen⟩
    | false =>
      have shape : ownCalls (events ++ [event]) = ownCalls events ++ [event] := by simp [ownCalls, calls]
      have step := alike_step (s := ⟨events.length, after e events, event⟩)
        (t := ⟨(ownCalls events).length, after f (ownCalls events), event⟩) left rfl last calls
      have same := observed_eq (s := ⟨events.length, after e events, event⟩)
        (t := ⟨(ownCalls events).length, after f (ownCalls events), event⟩) left rfl last calls
      rw [shape, after_concat, after_concat]
      refine ⟨step.1, ?_⟩
      simp only [observations] at seen
      simp [observations, calls, seen, same]

/-! ### Batches of writes to a store in memory -/

/-- While the store is on every write succeeds. -/
private theorem puts_available {records final : MemoryRecords}
    (puts : Puts records due answers final) (on : records.available = true) :
    final.available = true ∧ final.writes = records.writes + due.length ∧
      ∀ answer ∈ answers, answer.result = .ok () := by
  induction puts with
  | none => exact ⟨on, rfl, by simp⟩
  | saved answer more ih =>
    rw [MemoryRecords.put_of_available on] at answer
    obtain rfl := Except.ok.inj answer
    obtain ⟨still, count, all⟩ := ih on
    refine ⟨still, ?_, by simpa using all⟩
    rw [count, List.length_cons, Nat.add_assoc, Nat.add_comm 1]
  | refused answer more ih =>
    rw [MemoryRecords.put_of_available on] at answer
    cases answer

/-- While the store is off every write fails and leaves it as it was. -/
private theorem puts_offline {records final : MemoryRecords}
    (puts : Puts records due answers final) (off : records.available = false) :
    final = records ∧ ∀ answer ∈ answers, answer.result = .error .offline := by
  induction puts with
  | none => exact ⟨rfl, by simp⟩
  | saved answer more ih =>
    rw [MemoryRecords.put_of_offline off] at answer
    cases answer
  | refused answer more ih =>
    rw [MemoryRecords.put_of_offline off] at answer
    obtain rfl := Except.error.inj answer
    obtain ⟨same, all⟩ := ih off
    exact ⟨same, by simpa using all⟩

/-- What a call of the host does to a store in memory: every text is handed over once, and all of them
are taken if the store is on and none if it is off. -/
structure Batch (s : Step MemoryRecords) : Prop where
  puts : Puts s.before.library.records s.reply.attempts s.reply.outcomes s.after.library.records
  attempted : s.reply.outcomes.map WriteOutcome.document = s.reply.attempts.map Prod.fst
  available : s.before.library.records.available = true →
    s.after.library.records.writes = s.before.library.records.writes + s.reply.attempts.length ∧
      ∀ outcome ∈ s.reply.outcomes, outcome.result = .ok ()
  offline : s.before.library.records.available = false →
    s.after.library.records = s.before.library.records ∧
      ∀ outcome ∈ s.reply.outcomes, outcome.result = .error .offline

private theorem batch_of_step (s : Step MemoryRecords) (calls : s.event.isElsewhere = false) :
    Batch s := by
  have puts := puts_of_step s calls
  exact ⟨puts, puts.documents, fun on => (puts_available puts on).2, puts_offline puts⟩

/-- Two runs of editors over stores in memory that make the same calls, none of which reads the store.
Whatever happens to the stores elsewhere, such as being switched off and on, after every call the
editors are alike and the host has been told the same but for the results of the writes; and in each
run a write that fails keeps back none of those after it. -/
theorem outages_stay_unseen (e f : Editor MemoryRecords) (alike : Alike e f)
    (first second : List (Event MemoryRecords)) (same : ownCalls first = ownCalls second)
    (blind : ∀ event ∈ ownCalls first, event.reads = false) :
    observations e first = observations f second ∧ Alike (after e first) (after f second) ∧
      (∀ s ∈ steps e first, s.event.isElsewhere = false → Batch s) ∧
      ∀ s ∈ steps f second, s.event.isElsewhere = false → Batch s := by
  have unread (events : List (Event MemoryRecords)) (same : ownCalls first = ownCalls events) :
      ∀ event ∈ events, event.reads = false := by
    intro event member
    cases calls : event.isElsewhere with
    | true =>
      cases event with
      | elsewhere f => rfl
      | _ => cases calls
    | false =>
      apply blind
      rw [same, ownCalls, List.mem_filter]
      exact ⟨member, by simp [calls]⟩
  obtain ⟨left, seen⟩ := run_alike (Alike.refl e) (unread first rfl)
  obtain ⟨right, shown⟩ := run_alike alike.symm (unread second same)
  rw [← same] at right shown
  refine ⟨seen.trans shown.symm, left.trans right.symm, ?_, ?_⟩
  · exact fun s _ calls => batch_of_step s calls
  · exact fun s _ calls => batch_of_step s calls

/-- Two edits that are written together, and a third one. -/
def threeWrites : List (Event MemoryRecords) :=
  [.change (.integer 1) 0, .change (.integer 2) 12, .poll 30, .change (.integer 3) 31, .flush]

/-- The same with an outage from before the second edit until after the first batch. -/
def threeWritesInOutage : List (Event MemoryRecords) :=
  [.change (.integer 1) 0, .switch false, .change (.integer 2) 12, .poll 30, .switch true,
    .change (.integer 3) 31, .flush]

theorem threeWrites_unseen :
    Alike opened opened ∧ ownCalls threeWrites = ownCalls threeWritesInOutage ∧
      (∀ event ∈ ownCalls threeWrites, event.reads = false) ∧
      observations opened threeWrites = observations opened threeWritesInOutage ∧
      (after opened threeWrites).library.records.writes = 3 ∧
      (after opened threeWritesInOutage).library.records.writes = 1 := by
  have same : ownCalls threeWrites = ownCalls threeWritesInOutage := rfl
  have blind : ∀ event ∈ ownCalls threeWrites, event.reads = false := by
    simp [ownCalls, threeWrites, Event.isElsewhere, Event.reads]
  have unseen := outages_stay_unseen opened opened (Alike.refl opened) threeWrites
    threeWritesInOutage same blind
  exact ⟨Alike.refl opened, same, blind, unseen.1, by decide, by decide⟩

end Sketchbook.Editor
