import Sketchbook.Proofs.Autosave.PayloadFates

/-!
The time at which something is due. A collection takes what stands among the elapsed payloads
without a look at their deadlines, while the next deadline is the least of all; the two fit together
since an elapsed payload was found so by a call of the run (`elapsed_of_run`). `deadline_is_exact`
says that a host which collects at the next deadline, and only then, misses nothing and never comes
in vain.
-/
namespace Sketchbook.QuietQueue

variable {κ β : Type} [DecidableEq κ]

/-- The time of a call, if it has one. -/
def Call.time? : Call κ β → Option Nat
  | .schedule _ _ now | .takeDue now => some now
  | _ => none

/-- The times of calls, in order. -/
def times (calls : List (Call κ β)) : List Nat := calls.filterMap Call.time?

/-! ### Elapsed payloads -/

/-- A payload that becomes elapsed at a call has a deadline that is no later than the call. -/
private theorem elapsed_perform {q : QuietQueue κ β} {call : Call κ β} {entry : κ × Waiting β}
    (member : entry ∈ (q.perform call).2.elapsed) :
    entry ∈ q.elapsed ∨ ∃ now, call.time? = some now ∧ entry.2.deadline ≤ now := by
  -- Only `schedule` moves a payload there, and it compares the deadline first.
  cases call with
  | schedule key payload now =>
    simp only [perform, schedule] at member
    cases latest : q.latest? key with
    | none =>
      rw [latest] at member
      exact Or.inl member
    | some previous =>
      by_cases due : previous.deadline ≤ now
      · simp only [latest, due, ↓reduceIte, List.mem_append, List.mem_singleton] at member
        rcases member with earlier | rfl
        · exact Or.inl earlier
        · exact Or.inr ⟨now, rfl, due⟩
      · simp only [latest, due, ↓reduceIte] at member
        exact Or.inl member
  | cancel key => exact Or.inl (List.mem_of_mem_filter member)
  | takeNow key => exact Or.inl (List.mem_of_mem_filter member)
  | isPending key => exact Or.inl member
  | clear => cases member
  | takeDue now => cases member

/-- After a run the deadlines of all elapsed payloads are past. -/
theorem elapsed_of_run (window : Nat) {now : Nat} {calls : List (Call κ β)}
    (late : ∀ time ∈ times calls, time ≤ now) :
    ∀ entry ∈ (after (ofWindow window) calls).elapsed, entry.2.deadline ≤ now := by
  induction calls using List.reverseRecOn with
  | nil =>
    intro entry member
    cases member
  | append_singleton calls call ih =>
    simp only [times, List.filterMap_append, List.mem_append] at late
    intro entry member
    rw [after_concat] at member
    rcases elapsed_perform member with earlier | ⟨time, timed, passed⟩
    · exact ih (fun time inside => late time (Or.inl inside)) entry earlier
    · exact Nat.le_trans passed (late time (Or.inr (by simp [timed])))

/-! ### Collections and the next deadline -/

omit [DecidableEq κ] in
/-- When all elapsed payloads are past their deadlines, a collection takes those past their
deadlines and no others. -/
theorem takeDue_eq {q : QuietQueue κ β} {now : Nat}
    (past : ∀ entry ∈ q.elapsed, entry.2.deadline ≤ now) :
    (q.takeDue now).1 = (q.entries.filter fun entry => entry.2.deadline ≤ now).map payloadOf := by
  have all : q.elapsed.filter (fun entry => entry.2.deadline ≤ now) = q.elapsed :=
    List.filter_eq_self.mpr (by simpa using past)
  rw [takeDue, entries, List.filter_append, all]

omit [DecidableEq κ] in
/-- The next deadline has come if and only if that of some payload has. -/
theorem nextDeadline_le_iff {q : QuietQueue κ β} {now : Nat} :
    (∃ deadline, q.nextDeadline = some deadline ∧ deadline ≤ now) ↔
      ∃ entry ∈ q.entries, entry.2.deadline ≤ now := by
  constructor
  · rintro ⟨deadline, least, passed⟩
    obtain ⟨entry, inside, rfl⟩ := List.mem_map.mp (List.min?_mem least)
    exact ⟨entry, inside, passed⟩
  · rintro ⟨entry, inside, passed⟩
    have member : entry.2.deadline ∈ q.entries.map fun entry => entry.2.deadline :=
      List.mem_map.mpr ⟨entry, inside, rfl⟩
    obtain ⟨deadline, least⟩ :=
      Option.isSome_iff_exists.mp (List.isSome_min?_of_mem member)
    have first := (List.min?_eq_some_iff.mp least).2 _ member
    exact ⟨deadline, least, Nat.le_trans first passed⟩

/-- What a host can rely on that waits for the next deadline of a queue, when these payloads wait
under each key. -/
structure Punctual (window now : Nat) (waiting : κ → List (Scheduled κ β)) (q : QuietQueue κ β) :
    Prop where
  /-- A collection returns something if and only if the next deadline has come. -/
  wakes : (q.takeDue now).1 ≠ [] ↔ ∃ deadline, q.nextDeadline = some deadline ∧ deadline ≤ now
  /-- It returns the payloads whose window has passed since they were scheduled, and no others. -/
  due : ∀ key, (q.takeDue now).1.filter (fun entry => entry.1 = key) =
    ((waiting key).filter fun one => one.time + window ≤ now).map Scheduled.entry
  /-- Before the next deadline it changes nothing. -/
  early : (∀ deadline, q.nextDeadline = some deadline → now < deadline) → q.takeDue now = ([], q)
  /-- The next deadline that it leaves is still to come. -/
  later : ∀ deadline, (q.takeDue now).2.nextDeadline = some deadline → now < deadline

/-- At every time that is no earlier than the calls of a run, a collection takes exactly the
payloads whose deadline has come, and the next deadline tells whether there are any. -/
theorem deadline_is_exact (window now : Nat) (calls : List (Call κ β))
    (late : ∀ time ∈ times calls, time ≤ now) :
    Punctual window now (books window calls).of (after (ofWindow window) calls) := by
  have past := elapsed_of_run window late
  have taken := takeDue_eq past
  have held := under_entries window calls
  generalize after (ofWindow window) calls = q at past taken held
  constructor
  case wakes =>
    rw [nextDeadline_le_iff, taken, ne_eq, List.map_eq_nil_iff, List.filter_eq_nil_iff]
    simp
  case due =>
    intro key
    rw [taken, filter_payloadOf, under_filter, held key, List.filter_map, List.map_map]
    rfl
  case early =>
    intro ahead
    have unripe : ∀ entry ∈ q.entries, now < entry.2.deadline := by
      intro entry inside
      by_contra passed
      obtain ⟨deadline, least, come⟩ :=
        nextDeadline_le_iff.mpr ⟨entry, inside, Nat.le_of_not_lt passed⟩
      exact Nat.not_lt_of_le come (ahead deadline least)
    have idle : q.elapsed = [] := by
      refine List.eq_nil_iff_forall_not_mem.mpr fun entry inside => ?_
      exact Nat.not_lt_of_le (past entry inside) (unripe entry (List.mem_append_left _ inside))
    have waits : ∀ entry ∈ q.latest, now < entry.2.deadline := fun entry inside =>
      unripe entry (List.mem_append_right _ inside)
    have kept : q.latest.filter (fun entry => now < entry.2.deadline) = q.latest :=
      List.filter_eq_self.mpr (by simpa using waits)
    have nothing : q.latest.filter (fun entry => entry.2.deadline ≤ now) = [] :=
      List.filter_eq_nil_iff.mpr (by simpa using waits)
    simp only [takeDue, kept, nothing, idle, List.append_nil, List.map_nil]
    rw [← idle]
  case later =>
    intro deadline least
    obtain ⟨entry, inside, rfl⟩ := List.mem_map.mp (List.min?_mem least)
    have left : entry ∈ q.latest.filter fun entry => now < entry.2.deadline := inside
    simpa using (List.mem_filter.mp left).2

/-- A payload that is followed after its window has passed, while one of another key waits. -/
def twoKeys : List (Call Nat Nat) := [.schedule 1 7 0, .schedule 2 8 3, .schedule 1 9 12]

theorem twoKeys_punctual :
    (∀ time ∈ times twoKeys, time ≤ 13) ∧
      Punctual 10 13 (books 10 twoKeys).of (after (ofWindow 10) twoKeys) ∧
      ((after (ofWindow 10) twoKeys).takeDue 13).1 = [(1, 7), (2, 8)] ∧
      ((after (ofWindow 10) twoKeys).takeDue 13).2.nextDeadline = some 22 :=
  ⟨by decide, deadline_is_exact 10 13 twoKeys (by decide), rfl, rfl⟩

end Sketchbook.QuietQueue
