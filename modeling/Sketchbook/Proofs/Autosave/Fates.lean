import Sketchbook.Proofs.Autosave.Ledger

/-!
What becomes of an edit. `every_edit_has_one_fate` says that the books of any run are right: every
edit that was taken stands in them once, and each of the four places in which it can stand is borne
out by what the run did.
-/
namespace Sketchbook.Editor

variable {σ : Type}

/-! ### Warnings -/

private theorem discarding_not_mem_completeHydration (e : Editor σ) (ticket : Ticket)
    (fetched : Except StoreError Content) (id : DocumentId) :
    Notice.discarding id ∉ (e.completeHydration ticket fetched).notices := by
  unfold completeHydration
  split
  · simp
  · cases fetched <;> simp

private theorem discarding_not_mem_change (e : Editor σ) (m : Model) (now : Nat) (id : DocumentId) :
    Notice.discarding id ∉ (e.change m now).notices := by
  unfold change
  cases e.active with
  | none => simp
  | some d =>
    cases e.content with
    | none => simp
    | some old =>
      cases encode m with
      | error error => simp
      | ok written =>
        simp only
        split <;> simp

private theorem discarding_mem_noteDiscarded (e : Editor σ) (id : DocumentId) :
    Notice.discarding id ∈ e.noteDiscarded.notices ↔
      e.active.map Descriptor.id = some id ∧ e.waiting.isPending id = true := by
  unfold noteDiscarded
  cases e.active with
  | none => simp
  | some d =>
    by_cases pending : e.waiting.isPending d.id = true
    · simp only [pending, ↓reduceIte, notices_note, List.mem_singleton, Notice.discarding.injEq,
        Option.map_some, Option.some.injEq]
      exact ⟨fun same => ⟨same.symm, same ▸ pending⟩, fun both => both.1.symm⟩
    · simp only [pending, Bool.false_eq_true, ↓reduceIte, Noted.notices_pure, List.not_mem_nil,
        Option.map_some, Option.some.injEq, false_iff, not_and]
      rintro rfl
      exact pending

variable [Records σ]

private theorem discarding_not_mem_writeAll (library : Library σ) (due : List (DocumentId × String))
    (id : DocumentId) : Notice.discarding id ∉ (writeAll library due).notices := by
  induction due generalizing library with
  | nil => simp [writeAll]
  | cons entry rest ih =>
    obtain ⟨document, text⟩ := entry
    cases answer : Records.put library.records document.text text with
    | ok records => simp [writeAll, Library.putText, answer, ih]
    | error error => simp [writeAll, Library.putText, answer, ih]

private theorem discarding_not_mem_hydrate (e : Editor σ) (id : DocumentId) :
    Notice.discarding id ∉ e.hydrate.notices := by
  unfold hydrate
  cases e.beginHydration with
  | none => simp
  | some ticket => simpa using discarding_not_mem_completeHydration e ticket _ id

/-- The warning is given for the active document, when it is left while edits of it wait. -/
theorem discarding_mem_notices (s : Step σ) (id : DocumentId) :
    Notice.discarding id ∈ s.reply.notices ↔
      s.event.leaves = true ∧ s.before.active.map Descriptor.id = some id ∧
        s.before.waiting.isPending id = true := by
  obtain ⟨serial, e, event⟩ := s
  cases event with
  | activate d =>
    simpa [Step.reply, step, activate, Event.leaves] using discarding_mem_noteDiscarded e id
  | deactivate =>
    simpa [Step.reply, step, deactivate, Event.leaves] using discarding_mem_noteDiscarded e id
  | «open» d =>
    simpa [Step.reply, step, Editor.open, activate, Event.leaves, discarding_not_mem_hydrate]
      using discarding_mem_noteDiscarded e id
  | hydrate => simp [Step.reply, step, Event.leaves, discarding_not_mem_hydrate]
  | beginHydration => simp [Step.reply, step, Event.leaves]
  | completeHydration ticket fetched =>
    simp [Step.reply, step, Event.leaves, discarding_not_mem_completeHydration]
  | change m now => simp [Step.reply, step, Event.leaves, discarding_not_mem_change]
  | poll now => simp [Step.reply, step, poll, Event.leaves, discarding_not_mem_writeAll]
  | flush =>
    simp only [Step.reply, step, flush, Event.leaves]
    cases e.active <;> simp [discarding_not_mem_writeAll]
  | elsewhere f => simp [Step.reply, step, Event.leaves]

/-! ### Edits and their steps -/

/-- A step takes an edit: it is a change that was accepted, and the edit is told by its document, its
time and the text of the content that it left. -/
structure Step.Takes (s : Step σ) (edit : Edit) : Prop where
  accepted : ∃ m, s.event = .change m edit.time ∧ s.reply.taken = true
  serial : edit.serial = s.serial
  document : s.before.active.map Descriptor.id = some edit.document
  text : s.after.content.map Content.toText = some edit.text

theorem window_step (e : Editor σ) (event : Event σ) :
    (e.step event).2.waiting.window = e.waiting.window := by
  cases event with
  | activate d => rfl
  | deactivate => rfl
  | «open» d => simp [step, QuietQueue.clear]
  | hydrate =>
    simp only [step, value_hydrate]
    split <;> rfl
  | beginHydration => rfl
  | completeHydration ticket fetched =>
    simp only [step, value_completeHydration]
    split <;> rfl
  | change m now =>
    rcases change_cases 0 e m now with ⟨_, refused⟩ | ⟨d, content, text, _, _, _, taken⟩
    · simp only [step, refused]
    · simp only [step, taken, QuietQueue.schedule]
      split
      · rfl
      · split <;> rfl
  | poll now => rfl
  | flush =>
    simp only [step, value_flush]
    split <;> rfl
  | elsewhere f => rfl

theorem window_after (e : Editor σ) (events : List (Event σ)) :
    (after e events).waiting.window = e.waiting.window := by
  induction events using List.reverseRecOn with
  | nil => rfl
  | append_singleton events event ih => rw [after_concat, window_step, ih]

/-- What a step enters in the books is an edit that it takes. -/
theorem takes_of_edit? {s : Step σ} {edit : Edit} (entered : s.edit? = some edit) :
    s.Takes edit ∧ edit.deadline = edit.time + s.before.waiting.window := by
  obtain ⟨serial, e, event⟩ := s
  cases event with
  | change m now =>
    rcases change_cases serial e m now with ⟨idle, _⟩ | ⟨d, content, text, active, encoded, edited, taken⟩
    · cases idle.symm.trans entered
    · obtain rfl := Option.some.inj (edited.symm.trans entered)
      refine ⟨⟨⟨m, rfl, ?_⟩, rfl, ?_, ?_⟩, rfl⟩
      · simp [Step.reply, step, taken]
      · simp [active]
      · simp [Step.after, step, taken, (encode_eq_ok.mp encoded).2]
  | _ => simp [Step.edit?] at entered

/-- A change is accepted if and only if it enters an edit in the books. -/
theorem taken_change {s : Step σ} {m : Model} {now : Nat} (event : s.event = .change m now) :
    s.reply.taken = s.edit?.isSome := by
  obtain ⟨serial, e, _⟩ := s
  cases event
  rcases change_cases serial e m now with ⟨idle, refused⟩ | ⟨d, content, text, _, _, edited, taken⟩
  · simp [Step.reply, step, idle, refused]
  · simp [Step.reply, step, edited, taken]

theorem step_eq_of_serial {e : Editor σ} {events : List (Event σ)} {first second : Step σ}
    (left : first ∈ steps e events) (right : second ∈ steps e events)
    (same : first.serial = second.serial) : first = second := by
  obtain ⟨prior, later, split, found, place⟩ := mem_steps.mp left
  obtain ⟨prior', later', split', found', place'⟩ := mem_steps.mp right
  obtain ⟨rfl, tail⟩ := List.append_inj (split.symm.trans split')
    (by rw [← place, ← place', same])
  obtain ⟨event, _⟩ := List.cons.inj tail
  obtain ⟨serial, before, event'⟩ := first
  obtain ⟨serial', before', event''⟩ := second
  simp only at same found found' event
  rw [same, found, found', event]

theorem steps_ordered (e : Editor σ) (events : List (Event σ)) :
    (steps e events).Pairwise fun earlier later => earlier.serial < later.serial := by
  induction events using List.reverseRecOn with
  | nil => exact .nil
  | append_singleton events event ih =>
    rw [steps_concat, List.pairwise_append]
    refine ⟨ih, List.pairwise_singleton _ _, fun earlier member last self => ?_⟩
    rw [List.mem_singleton] at self
    rw [self]
    exact serial_lt_of_mem_steps member

theorem edits_ordered (e : Editor σ) (events : List (Event σ)) :
    (edits e events).Pairwise fun earlier later => earlier.serial < later.serial := by
  refine List.Pairwise.filterMap _ ?_ (steps_ordered e events)
  intro first second order edit entered later entered'
  rw [(takes_of_edit? entered).1.serial, (takes_of_edit? entered').1.serial]
  exact order

theorem mem_edits {e : Editor σ} {events : List (Event σ)} {edit : Edit} :
    edit ∈ edits e events ↔ ∃ s ∈ steps e events, s.edit? = some edit :=
  List.mem_filterMap

theorem serial_lt_of_mem_edits {e : Editor σ} {events : List (Event σ)} {edit : Edit}
    (member : edit ∈ edits e events) : edit.serial < events.length := by
  obtain ⟨s, inside, entered⟩ := mem_edits.mp member
  rw [(takes_of_edit? entered).1.serial]
  exact serial_lt_of_mem_steps inside

private theorem edits_accepted {e : Editor σ} {events : List (Event σ)} {s : Step σ}
    (inside : s ∈ steps e events) :
    (∃ m now, s.event = .change m now ∧ s.reply.taken = true) ↔
      ∃ edit ∈ edits e events, edit.serial = s.serial := by
  constructor
  · rintro ⟨m, now, event, accepted⟩
    rw [taken_change event] at accepted
    obtain ⟨edit, entered⟩ := Option.isSome_iff_exists.mp accepted
    exact ⟨edit, mem_edits.mpr ⟨s, inside, entered⟩, (takes_of_edit? entered).1.serial⟩
  · rintro ⟨edit, member, same⟩
    obtain ⟨other, otherInside, entered⟩ := mem_edits.mp member
    have takes := (takes_of_edit? entered).1
    obtain rfl : other = s := step_eq_of_serial otherInside inside (takes.serial.symm.trans same)
    obtain ⟨m, event, accepted⟩ := takes.accepted
    exact ⟨m, edit.time, event, accepted⟩

private theorem edits_taken {e : Editor σ} {events : List (Event σ)} {edit : Edit}
    (member : edit ∈ edits e events) :
    (∃ s ∈ steps e events, s.Takes edit) ∧ edit.deadline = edit.time + e.waiting.window := by
  obtain ⟨s, inside, entered⟩ := mem_edits.mp member
  obtain ⟨takes, deadline⟩ := takes_of_edit? entered
  obtain ⟨prior, later, _, found, _⟩ := mem_steps.mp inside
  exact ⟨⟨s, inside, takes⟩, by rw [deadline, found, window_after]⟩

/-! ### The places in the books -/

/-- The books of a run are right. -/
structure Ledger.Accounts (e : Editor σ) (events : List (Event σ)) (l : Ledger) : Prop where
  /-- The edits are those that the calls accepted. -/
  accepted : ∀ s ∈ steps e events,
    (∃ m now, s.event = .change m now ∧ s.reply.taken = true) ↔
      ∃ edit ∈ edits e events, edit.serial = s.serial
  taken : ∀ edit ∈ edits e events, (∃ s ∈ steps e events, s.Takes edit) ∧
    edit.deadline = edit.time + e.waiting.window
  /-- Every edit stands in one place, once. -/
  complete : l.all.Perm (edits e events)
  distinct : (edits e events).Pairwise fun earlier later => earlier.serial < later.serial
  /-- A superseded edit was followed by another one of its document before its deadline. -/
  superseded : ∀ old new, (old, new) ∈ l.superseded → new ∈ edits e events ∧
    old.serial < new.serial ∧ new.document = old.document ∧ new.time < old.deadline
  /-- The texts of the written edits were put once each, in order, and each put has one outcome. -/
  attempts : Editor.attempts e events = l.written.map Edit.entry
  outcomes : (Editor.outcomes e events).map WriteOutcome.document = l.written.map Edit.document
  puts : ∀ s ∈ steps e events, s.event.isElsewhere = false →
    Puts s.before.library.records s.reply.attempts s.reply.outcomes s.after.library.records
  /-- A dropped edit was dropped by an event that left its document, with all that waited then. -/
  dropped : ∀ edit serial, (edit, serial) ∈ l.dropped →
    ∃ s ∈ steps e events, s.serial = serial ∧ s.event.leaves = true ∧ edit.serial < serial
  dropped_whole : ∀ s ∈ steps e events, s.event.leaves = true →
    ((l.dropped.filter (·.2 = s.serial)).map fun fate => (fate.1.document, fate.1.waiting)) =
      s.before.waiting.entries
  /-- The edits that are left wait in the queue. -/
  pending : (after e events).waiting.entries =
    l.pending.map fun edit => (edit.document, edit.waiting)
  count : (edits e events).length =
    l.superseded.length + (Editor.outcomes e events).length + l.dropped.length +
      (after e events).waiting.size
  /-- A document is named in a warning of discarded edits if and only if it was the active one and
  the event dropped an edit. -/
  warned : ∀ s ∈ steps e events, ∀ id, Notice.discarding id ∈ s.reply.notices ↔
    s.before.active.map Descriptor.id = some id ∧ ∃ edit, (edit, s.serial) ∈ l.dropped

variable {e : Editor σ} {events : List (Event σ)}

theorem mem_edits_of_pending {edit : Edit} (waits : edit ∈ (ledger e events).pending) :
    edit ∈ edits e events :=
  (all_perm_edits e events).mem_iff.mp (List.mem_append_right _ waits)

theorem mem_edits_of_written {edit : Edit} (written : edit ∈ (ledger e events).written) :
    edit ∈ edits e events := by
  refine (all_perm_edits e events).mem_iff.mp ?_
  exact List.mem_append_left _ (List.mem_append_left _ (List.mem_append_right _ written))

private theorem ledger_superseded (idle : e.waiting.isEmpty = true) {old new : Edit}
    (member : (old, new) ∈ (ledger e events).superseded) :
    new ∈ edits e events ∧ old.serial < new.serial ∧ new.document = old.document ∧
      new.time < old.deadline := by
  induction events using List.reverseRecOn with
  | nil => cases member
  | append_singleton events event ih =>
    rw [ledger_concat] at member
    rcases Ledger.superseded_record member with earlier | ⟨waits, entered, early⟩
    · obtain ⟨inside, rest⟩ := ih earlier
      exact ⟨by rw [edits_concat]; exact List.mem_append_left _ inside, rest⟩
    · have takes := (takes_of_edit? entered).1
      have order : old.serial < new.serial := by
        rw [takes.serial]
        exact serial_lt_of_mem_edits (mem_edits_of_pending waits)
      have document : new.document = old.document := by
        cases active : (after e events).active with
        | none =>
          rw [((ledger_agrees idle events).idle active).2] at waits
          cases waits
        | some d =>
          have own := (ledger_agrees idle events).own d active old waits
          have named := takes.document
          simp only [active, Option.map_some, Option.some.injEq] at named
          rw [own, named]
      refine ⟨?_, order, document, early⟩
      rw [edits_concat, entered]
      simp

private theorem ledger_dropped (edit : Edit) (serial : Nat)
    (member : (edit, serial) ∈ (ledger e events).dropped) :
    ∃ s ∈ steps e events, s.serial = serial ∧ s.event.leaves = true ∧ edit.serial < serial := by
  induction events using List.reverseRecOn with
  | nil => cases member
  | append_singleton events event ih =>
    rw [ledger_concat, Ledger.dropped_record, List.mem_append] at member
    rcases member with earlier | new
    · obtain ⟨s, inside, rest⟩ := ih earlier
      exact ⟨s, mem_steps_append _ inside, rest⟩
    · split at new
      · next leaves =>
        obtain ⟨other, waits, same⟩ := List.mem_map.mp new
        obtain ⟨rfl, rfl⟩ := Prod.mk.inj same
        refine ⟨⟨events.length, after e events, event⟩, by simp, rfl, leaves, ?_⟩
        exact serial_lt_of_mem_edits (mem_edits_of_pending waits)
      · cases new

private theorem ledger_dropped_whole (idle : e.waiting.isEmpty = true) {s : Step σ}
    (inside : s ∈ steps e events) (leaves : s.event.leaves = true) :
    (((ledger e events).dropped.filter (·.2 = s.serial)).map
      fun fate => (fate.1.document, fate.1.waiting)) = s.before.waiting.entries := by
  induction events using List.reverseRecOn with
  | nil => cases inside
  | append_singleton events event ih =>
    rw [ledger_concat, Ledger.dropped_record, List.filter_append, List.map_append]
    rcases mem_steps_concat.mp inside with earlier | rfl
    · have other : events.length ≠ s.serial := Nat.ne_of_gt (serial_lt_of_mem_steps earlier)
      have untouched : (if event.leaves then (ledger e events).pending.map (·, events.length)
          else []).filter (·.2 = s.serial) = [] := by
        split <;> simp [other]
      rw [ih earlier, untouched]
      simp
    · have fresh : (ledger e events).dropped.filter (·.2 = events.length) = [] := by
        refine List.filter_eq_nil_iff.mpr fun fate member same => ?_
        obtain ⟨s, inside, place, _⟩ := ledger_dropped fate.1 fate.2 member
        have earlier := serial_lt_of_mem_steps inside
        simp only [decide_eq_true_eq] at same
        omega
      rw [fresh, (ledger_agrees idle events).pending_is_waiting]
      simp only at leaves
      simp [leaves, List.filter_map, Function.comp_def]

private theorem outcomes_documents (e : Editor σ) (events : List (Event σ)) :
    (outcomes e events).map WriteOutcome.document = (attempts e events).map Prod.fst := by
  induction events using List.reverseRecOn with
  | nil => rfl
  | append_singleton events event ih =>
    have last : (((after e events).step event).1.outcomes).map WriteOutcome.document =
        (((after e events).step event).1.attempts).map Prod.fst := by
      cases own : event.isElsewhere with
      | false => exact (puts_of_step ⟨events.length, after e events, event⟩ own).documents
      | true =>
        cases event with
        | elsewhere f => rfl
        | _ => cases own
    rw [outcomes_concat, attempts_concat, List.map_append, List.map_append, ih, last]

private theorem ledger_warned (idle : e.waiting.isEmpty = true) {s : Step σ}
    (inside : s ∈ steps e events) (id : DocumentId) :
    Notice.discarding id ∈ s.reply.notices ↔
      s.before.active.map Descriptor.id = some id ∧
        ∃ edit, (edit, s.serial) ∈ (ledger e events).dropped := by
  obtain ⟨prior, later, _, found, _⟩ := mem_steps.mp inside
  have agrees := ledger_agrees idle prior
  rw [← found] at agrees
  have waits (named : s.before.active.map Descriptor.id = some id) :
      s.before.waiting.isPending id = true ↔ s.before.waiting.entries ≠ [] := by
    obtain ⟨d, active, rfl⟩ := Option.map_eq_some_iff.mp named
    rw [agrees.queue d active]
    simp
  rw [discarding_mem_notices]
  constructor
  · rintro ⟨leaves, named, pending⟩
    have whole := ledger_dropped_whole idle inside leaves
    have nonempty := (waits named).mp pending
    rw [← whole, ne_eq, List.map_eq_nil_iff] at nonempty
    obtain ⟨fate, member⟩ := List.exists_mem_of_ne_nil _ nonempty
    obtain ⟨dropped, same⟩ := List.mem_filter.mp member
    rw [decide_eq_true_eq] at same
    exact ⟨named, fate.1, by rw [← same]; exact dropped⟩
  · rintro ⟨named, edit, dropped⟩
    obtain ⟨other, otherInside, place, leaves, _⟩ := ledger_dropped _ _ dropped
    obtain rfl := step_eq_of_serial otherInside inside place
    have whole := ledger_dropped_whole idle inside leaves
    refine ⟨leaves, named, (waits named).mpr ?_⟩
    rw [← whole]
    exact List.ne_nil_of_mem (List.mem_map_of_mem (List.mem_filter.mpr ⟨dropped, by simp⟩))

private theorem ledger_count (idle : e.waiting.isEmpty = true) :
    (edits e events).length =
      (ledger e events).superseded.length + (outcomes e events).length +
        (ledger e events).dropped.length + (after e events).waiting.size := by
  have whole := (all_perm_edits e events).length_eq
  have reported := congrArg List.length (outcomes_documents e events)
  have written := congrArg List.length (attempts_eq_written idle events)
  have waits := congrArg List.length (ledger_agrees idle events).pending_is_waiting
  simp only [Ledger.all, List.length_append, List.length_map] at whole reported written waits
  rw [QuietQueue.size]
  omega

/-- Whatever calls are made, in whatever order and with whatever times, every edit that was taken is
in the end superseded in time, handed to the store once and reported once, dropped with a warning
when its document was left, or still waiting; and it is only one of these. -/
theorem every_edit_has_one_fate (library : Library σ) (window : Nat) (events : List (Event σ)) :
    (ledger (ofLibrary library window) events).Accounts (ofLibrary library window) events where
  accepted _ inside := edits_accepted inside
  taken _ member := edits_taken member
  complete := all_perm_edits _ _
  distinct := edits_ordered _ _
  superseded _ _ member := ledger_superseded rfl member
  attempts := attempts_eq_written rfl events
  outcomes := by
    rw [outcomes_documents, attempts_eq_written rfl, List.map_map]
    rfl
  puts s _ own := puts_of_step s own
  dropped := ledger_dropped
  dropped_whole _ inside leaves := ledger_dropped_whole rfl inside leaves
  pending := (ledger_agrees rfl events).pending_is_waiting
  count := ledger_count rfl
  warned _ inside id := ledger_warned rfl inside id

end Sketchbook.Editor
