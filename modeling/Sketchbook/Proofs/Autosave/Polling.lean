import Sketchbook.Proofs.Autosave.Fates

/-!
Polling. What autosave writes is a matter of the edits and their times alone: an edit is written if
and only if no other one follows it within the window (`settled`). When, how often and whether at all
the host polls in between does not matter, as long as it polls once in the end
(`writes_independent_of_polling`).
-/
namespace Sketchbook.Editor

/-- Of edits given by time and text, the texts of those that no other edit follows within the
window. -/
def settled (window : Nat) : List (Nat × String) → List String
  | [] => []
  | (time, text) :: rest =>
    match rest.head? with
    | none => [text]
    | some next =>
      if time + window ≤ next.1 then text :: settled window rest else settled window rest

private theorem settled_cons (window : Nat) (edit next : Nat × String) (rest : List (Nat × String)) :
    settled window (edit :: next :: rest) =
      (if edit.1 + window ≤ next.1 then [edit.2] else []) ++ settled window (next :: rest) := by
  obtain ⟨time, text⟩ := edit
  by_cases quiet : time + window ≤ next.1 <;> simp [settled, quiet]

/-- The last edit is always written. -/
theorem settled_concat (window : Nat) (before : List (Nat × String)) (last : Nat × String) :
    settled window (before ++ [last]) = (settled window (before ++ [last])).dropLast ++ [last.2] := by
  induction before with
  | nil => rfl
  | cons edit rest ih =>
    cases rest with
    | nil => exact (settled_cons window edit last []).trans (by simp [settled_cons, settled])
    | cons next rest =>
      rw [List.cons_append, List.cons_append, settled_cons, ← List.cons_append, ih]
      simp

/-- A further edit leaves the one before it written if the window had passed. -/
private theorem settled_further (window : Nat) (before : List (Nat × String))
    (last further : Nat × String) :
    settled window (before ++ [last] ++ [further]) =
      (if last.1 + window ≤ further.1 then settled window (before ++ [last])
        else (settled window (before ++ [last])).dropLast) ++ [further.2] := by
  induction before with
  | nil =>
    by_cases quiet : last.1 + window ≤ further.1 <;> simp [settled, quiet]
  | cons edit rest ih =>
    obtain ⟨next, more, shape⟩ : ∃ next more, rest ++ [last] = next :: more :=
      List.exists_cons_of_ne_nil (by simp)
    have front := settled_concat window rest last
    simp only [List.cons_append, shape] at ih front ⊢
    rw [settled_cons, settled_cons, ih]
    by_cases quiet : last.1 + window ≤ further.1
    · simp [quiet]
    · rw [front]
      simp [quiet, ← List.append_assoc]

/-! ### The books at a time -/

/-- How the books stand at a time: all that is written or waits is what these edits settle on, the
last of them waits with its own deadline, and when nothing waits its window has passed. -/
structure Ledger.Stands (window : Nat) (given : List (Nat × String)) (now : Nat) (l : Ledger) :
    Prop where
  total : (l.written ++ l.pending).map Edit.text = settled window given
  last : ∀ edit, l.pending.getLast? = some edit →
    given.getLast? = some (edit.time, edit.text) ∧ edit.deadline = edit.time + window
  quiet : l.pending = [] → ∀ time text, given.getLast? = some (time, text) → time + window ≤ now

namespace Ledger

theorem Stands.mono {l : Ledger} (stands : l.Stands window given now) (order : now ≤ later) :
    l.Stands window given later :=
  ⟨stands.total, stands.last, fun nothing time text given =>
    Nat.le_trans (stands.quiet nothing time text given) order⟩

/-- An edit that comes later joins the books as it joins those that settle. -/
theorem Stands.take {l : Ledger} (stands : l.Stands window given now) (edit : Edit)
    (deadline : edit.deadline = edit.time + window) (order : now ≤ edit.time) :
    (l.take edit).Stands window (given ++ [(edit.time, edit.text)]) edit.time := by
  obtain ⟨total, last, quiet⟩ := stands
  have waits : ∃ before, (l.take edit).pending = before ++ [edit] := by
    unfold Ledger.take
    split
    · split <;> exact ⟨_, rfl⟩
    · exact ⟨[], rfl⟩
  obtain ⟨before, waits⟩ := waits
  constructor
  case total =>
    rcases List.eq_nil_or_concat' l.pending with nothing | ⟨early, previous, parts⟩
    · rcases List.eq_nil_or_concat' given with rfl | ⟨front, ⟨time, text⟩, rfl⟩
      · simpa [Ledger.take, nothing, settled] using total
      · have passed : time + window ≤ edit.time :=
          Nat.le_trans (quiet nothing time text (by simp)) order
        rw [settled_further]
        simpa [Ledger.take, nothing, passed] using total
    · obtain ⟨shape, due⟩ := last previous (by simp [parts])
      obtain ⟨front, rfl⟩ := List.getLast?_eq_some_iff.mp shape
      rw [settled_further]
      by_cases inside : edit.time < previous.deadline
      · have soon : ¬ previous.time + window ≤ edit.time := by omega
        rw [if_neg soon, ← total, parts]
        simp [Ledger.take, parts, inside, ← List.append_assoc]
      · have passed : previous.time + window ≤ edit.time := by omega
        rw [if_pos passed, ← total]
        simp [Ledger.take, parts, inside]
  case last =>
    intro one found
    have self : edit = one := by simpa [waits] using found
    rw [← self]
    exact ⟨by simp, deadline⟩
  case quiet =>
    intro nothing
    simp [waits] at nothing

/-- Collecting moves entries on and changes nothing about which edits settle. -/
theorem Stands.collect {l : Ledger} (stands : l.Stands window given now) (order : now ≤ later) :
    (l.collect later).Stands window given later := by
  obtain ⟨total, last, quiet⟩ := stands.mono order
  rcases List.eq_nil_or_concat' l.pending with nothing | ⟨before, previous, parts⟩
  · have same : l.collect later = l := by simp [Ledger.collect, nothing]
    rw [same]
    exact ⟨total, last, quiet⟩
  · obtain ⟨shape, deadline⟩ := last previous (by simp [parts])
    by_cases due : previous.deadline ≤ later
    · constructor
      case total => simpa [Ledger.collect, parts, due] using total
      case last => simp [Ledger.collect, parts, due]
      case quiet =>
        intro _ time text found
        obtain ⟨rfl, rfl⟩ := Prod.mk.inj (Option.some.inj (shape.symm.trans found))
        omega
    · constructor
      case total => simpa [Ledger.collect, parts, due] using total
      case last =>
        intro one found
        obtain rfl : previous = one := by simpa [Ledger.collect, parts, due] using found
        exact ⟨shape, deadline⟩
      case quiet => simp [Ledger.collect, parts, due]

/-- Once the window of the last edit has passed, a collection leaves nothing to wait. -/
theorem Stands.collected {l : Ledger} (stands : l.Stands window given now)
    (late : ∀ time text, given.getLast? = some (time, text) → time + window ≤ later) :
    (l.collect later).pending = [] := by
  rcases List.eq_nil_or_concat' l.pending with nothing | ⟨before, previous, parts⟩
  · simp [Ledger.collect, nothing]
  · obtain ⟨shape, deadline⟩ := stands.last previous (by simp [parts])
    have due : previous.deadline ≤ later := by
      rw [deadline]
      exact late previous.time previous.text shape
    simp [Ledger.collect, parts, due]

end Ledger

/-! ### Schedules -/

/-- The time that a call is given. -/
def Event.time? : Event σ → Option Nat
  | .change _ now | .poll now => some now
  | _ => none

/-- Whether an event is an edit or a poll, or somebody else acts on the store. -/
def Event.isEditing : Event σ → Bool
  | .change _ _ | .poll _ | .elsewhere _ => true
  | _ => false

/-- The text of an edit, if it has one. -/
def textOf? (m : Model) : Option String := (Content.ofModel m).toOption.map Content.toText

/-- The edits among events that have a text, each with its time. -/
def writable (events : List (Event σ)) : List (Nat × String) :=
  events.filterMap fun
    | .change m now => (textOf? m).map (now, ·)
    | _ => none

/-- Edits with any polls between them and a last poll, at times that never decrease; the last poll
comes when the window of the last edit has passed. -/
structure Schedule (window : Nat) (events : List (Event σ)) (last : Nat) : Prop where
  calls : ∀ event ∈ events, event.isEditing = true
  ordered : (events.filterMap Event.time? ++ [last]).Pairwise (· ≤ ·)
  late : ∀ time text, (writable events).getLast? = some (time, text) → time + window ≤ last

variable {σ : Type} {e : Editor σ} {d : Descriptor} {events : List (Event σ)}

theorem writable_concat (events : List (Event σ)) (event : Event σ) :
    writable (events ++ [event]) = writable events ++ writable [event] :=
  List.filterMap_append

/-- A loaded document takes every edit that has a text. -/
theorem edit?_of_loaded {s : Step σ} (active : s.before.active = some d)
    (loaded : s.before.content.isSome = true) {m : Model} {now : Nat}
    (event : s.event = .change m now) :
    s.edit? = (textOf? m).map fun text =>
      ⟨s.serial, d.id, text, now, now + s.before.waiting.window⟩ := by
  obtain ⟨old, content⟩ := Option.isSome_iff_exists.mp loaded
  simp only [Step.edit?, event, active, content, textOf?]
  cases made : Content.ofModel m with
  | error error => simp [encode, made, bind, Except.bind, Except.toOption]
  | ok fresh => simp [encode_eq_ok.mpr ⟨made, rfl⟩, Except.toOption]

variable [Records σ]

/-- Edits and polls leave a loaded document active and loaded. -/
theorem loaded_after (active : e.active = some d) (loaded : e.content.isSome = true)
    (calls : ∀ event ∈ events, event.isEditing = true) :
    (after e events).active = some d ∧ (after e events).content.isSome = true := by
  induction events using List.reverseRecOn with
  | nil => exact ⟨active, loaded⟩
  | append_singleton events event ih =>
    have before := ih fun event member => calls event (List.mem_append_left _ member)
    have last := calls event (by simp)
    rw [after_concat]
    cases event with
    | change m now =>
      rcases change_cases 0 (after e events) m now with
        ⟨_, refused⟩ | ⟨_, content, text, _, _, _, taken⟩
      · simpa only [step, refused] using before
      · rw [step, taken]
        exact ⟨before.1, rfl⟩
    | poll now => exact before
    | elsewhere f => exact before
    | _ => cases last

/-- From the last call on, the books stand as the edits settle. -/
theorem ledger_stands (active : e.active = some d) (loaded : e.content.isSome = true)
    (calls : ∀ event ∈ events, event.isEditing = true)
    (ordered : (events.filterMap Event.time?).Pairwise (· ≤ ·)) (now : Nat)
    (past : ∀ time ∈ events.filterMap Event.time?, time ≤ now) :
    (ledger e events).Stands e.waiting.window (writable events) now := by
  induction events using List.reverseRecOn generalizing now with
  | nil => exact ⟨rfl, by simp, by simp [writable]⟩
  | append_singleton events event ih =>
    have earlier : ∀ event ∈ events, event.isEditing = true := fun event member =>
      calls event (List.mem_append_left _ member)
    have last := calls event (by simp)
    rw [List.filterMap_append] at ordered past
    have inOrder := List.pairwise_append.mp ordered
    have before := ih earlier inOrder.1
    have there := loaded_after active loaded earlier
    rw [ledger_concat, writable_concat]
    cases event with
    | change m time =>
      have stands : (ledger e events).Stands e.waiting.window (writable events) time :=
        before time fun prior member => inOrder.2.2 prior member time (by simp [Event.time?])
      have reached : time ≤ now := past time (by simp [Event.time?])
      have entered := edit?_of_loaded (s := ⟨events.length, after e events, .change m time⟩)
        there.1 there.2 rfl
      cases written : textOf? m with
      | none =>
        rw [written] at entered
        simpa [Ledger.record, entered, writable, written] using stands.mono reached
      | some text =>
        rw [written, window_after] at entered
        have taken := stands.take ⟨events.length, d.id, text, time, time + e.waiting.window⟩ rfl
          (Nat.le_refl time)
        simpa [Ledger.record, entered, writable, written] using taken.mono reached
    | poll time =>
      have stands : (ledger e events).Stands e.waiting.window (writable events) time :=
        before time fun prior member => inOrder.2.2 prior member time (by simp [Event.time?])
      have collected := (stands.collect (Nat.le_refl time)).mono (past time (by simp [Event.time?]))
      simpa [Ledger.record, writable] using collected
    | elsewhere f =>
      have stands := before now fun time member => past time (List.mem_append_left _ member)
      simpa [Ledger.record, writable] using stands
    | _ => cases last

/-- The edits of a loaded document are edits of it. -/
theorem edits_own (active : e.active = some d) (loaded : e.content.isSome = true)
    (calls : ∀ event ∈ events, event.isEditing = true) {edit : Edit}
    (member : edit ∈ edits e events) : edit.document = d.id := by
  obtain ⟨s, inside, entered⟩ := mem_edits.mp member
  obtain ⟨prior, later, rfl, found, _⟩ := mem_steps.mp inside
  have there := loaded_after active loaded fun event member =>
    calls event (List.mem_append_left _ member)
  have document := (takes_of_edit? entered).1.document
  simpa [found, there.1] using document.symm

/-- The edits of a loaded document are those that have a text. -/
theorem edits_of_loaded (active : e.active = some d) (loaded : e.content.isSome = true)
    (calls : ∀ event ∈ events, event.isEditing = true) :
    (edits e events).map (fun edit => (edit.time, edit.text)) = writable events := by
  induction events using List.reverseRecOn with
  | nil => rfl
  | append_singleton events event ih =>
    have earlier : ∀ event ∈ events, event.isEditing = true := fun event member =>
      calls event (List.mem_append_left _ member)
    obtain ⟨there, content⟩ := loaded_after active loaded earlier
    rw [edits_concat, writable_concat, List.map_append, ih earlier]
    cases event with
    | change m time =>
      have entered := edit?_of_loaded (s := ⟨events.length, after e events, .change m time⟩)
        there content rfl
      rw [entered]
      cases written : textOf? m <;> simp [writable, written]
    | _ => simp [writable, Step.edit?]

/-- When nothing waits any more, the edits that were handed to the store are those that settle. -/
theorem attempts_settled (active : e.active = some d) (loaded : e.content.isSome = true)
    (idle : e.waiting.isEmpty = true) (calls : ∀ event ∈ events, event.isEditing = true)
    (ordered : (events.filterMap Event.time?).Pairwise (· ≤ ·))
    (emptied : (ledger e events).pending = []) :
    attempts e events = (settled e.waiting.window (writable events)).map (d.id, ·) := by
  have above : ∃ now, ∀ time ∈ events.filterMap Event.time?, time ≤ now := by
    rcases List.eq_nil_or_concat' (events.filterMap Event.time?) with nothing | ⟨before, last, shape⟩
    · exact ⟨0, by simp [nothing]⟩
    · rw [shape] at ordered ⊢
      refine ⟨last, fun time member => ?_⟩
      rcases List.mem_append.mp member with earlier | self
      · exact (List.pairwise_append.mp ordered).2.2 time earlier last (by simp)
      · exact Nat.le_of_eq (List.mem_singleton.mp self)
  obtain ⟨now, past⟩ := above
  have total := (ledger_stands active loaded calls ordered now past).total
  rw [emptied, List.append_nil] at total
  have named : ∀ edit ∈ (ledger e events).written, edit.entry = (d.id, edit.text) := by
    intro edit member
    rw [Edit.entry, edits_own active loaded calls (mem_edits_of_written member)]
  rw [attempts_eq_written idle, List.map_congr_left named, ← total, List.map_map]
  rfl

/-- After the last poll nothing waits, and the written edits are those that settle. -/
private theorem attempts_scheduled (active : e.active = some d) (loaded : e.content.isSome = true)
    (idle : e.waiting.isEmpty = true) {last : Nat}
    (schedule : Schedule e.waiting.window events last) :
    (ledger e (events ++ [.poll last])).pending = [] ∧
      attempts e (events ++ [.poll last]) =
        (settled e.waiting.window (writable events)).map (d.id, ·) := by
  obtain ⟨calls, ordered, late⟩ := schedule
  have inOrder := List.pairwise_append.mp ordered
  have stands := ledger_stands active loaded calls inOrder.1 last fun time member =>
    inOrder.2.2 time member last (by simp)
  have all : ∀ event ∈ events ++ [.poll last], event.isEditing = true := by
    simpa [or_imp, forall_and, Event.isEditing] using calls
  have pending : (ledger e (events ++ [.poll last])).pending = [] := by
    rw [ledger_concat]
    exact stands.collected late
  have times : ((events ++ [Event.poll last]).filterMap Event.time?).Pairwise (· ≤ ·) := by
    rw [List.filterMap_append]
    exact ordered
  have same : writable (events ++ [.poll last]) = writable events := by
    rw [writable_concat]
    exact List.append_nil _
  refine ⟨pending, ?_⟩
  rw [attempts_settled active loaded idle all times pending, same]

/-- Whenever and however often a loaded editor is polled while it is edited, the texts that it hands
to the store are, in order and each once, those of the edits that no other followed within the
window; no two ways of polling differ, and nothing is left to be written. -/
theorem writes_independent_of_polling (active : e.active = some d) (hydrated : e.phase = .hydrated)
    {last : Nat} (schedule : Schedule e.waiting.window events last) :
    (∀ s ∈ steps e events, ∀ m now, s.event = .change m now →
      (s.reply.taken = true ↔ (textOf? m).isSome = true)) ∧
    attempts e (events ++ [.poll last]) =
      (settled e.waiting.window (writable events)).map (d.id, ·) ∧
    (∀ s ∈ steps e (events ++ [.poll last]), s.event.isElsewhere = false →
      Puts s.before.library.records s.reply.attempts s.reply.outcomes s.after.library.records) ∧
    (after e (events ++ [.poll last])).waiting.isEmpty = true ∧
    ∀ others last', Schedule e.waiting.window others last' → writable others = writable events →
      attempts e (others ++ [.poll last']) = attempts e (events ++ [.poll last]) := by
  obtain ⟨loaded, idle⟩ : e.content.isSome = true ∧ e.waiting.isEmpty = true := by
    cases there : e.content <;> cases nothing : e.waiting.isEmpty <;>
      simp [phase, there, nothing] at hydrated ⊢
  obtain ⟨pending, writes⟩ := attempts_scheduled active loaded idle schedule
  refine ⟨?_, writes, fun s _ own => puts_of_step s own, ?_, ?_⟩
  · intro s inside m now event
    obtain ⟨prior, later, rfl, found, _⟩ := mem_steps.mp inside
    obtain ⟨there, content⟩ := loaded_after active loaded fun event member =>
      schedule.calls event (List.mem_append_left _ member)
    rw [← found] at there content
    rw [taken_change event, edit?_of_loaded there content event, Option.isSome_map]
  · have waits := (ledger_agrees idle (events ++ [.poll last])).pending_is_waiting
    rw [QuietQueue.isEmpty, waits, pending]
    rfl
  · intro others last' other same
    rw [writes, (attempts_scheduled active loaded idle other).2, same]

/-- Three edits with polls between them; the second comes within the window of the first. -/
def threeEdits : List (Event MemoryRecords) :=
  [.change (.integer 1) 0, .poll 3, .change (.integer 2) 5, .change (.integer 3) 15, .poll 16]

private theorem schedule_threeEdits : Schedule opened.waiting.window threeEdits 25 where
  calls := by simp [threeEdits, Event.isEditing]
  ordered := by decide
  late time text found := by
    have self : (writable threeEdits).getLast? = some (15, "3") := by decide
    obtain ⟨rfl, rfl⟩ := Prod.mk.inj (Option.some.inj (self.symm.trans found))
    decide

theorem writes_of_threeEdits :
    opened.active = some sample ∧ opened.phase = .hydrated ∧
      Schedule opened.waiting.window threeEdits 25 ∧
      attempts opened (threeEdits ++ [.poll 25]) = [(sample.id, "2"), (sample.id, "3")] := by
  have active : opened.active = some sample := by decide
  have hydrated : opened.phase = .hydrated := by decide
  refine ⟨active, hydrated, schedule_threeEdits, ?_⟩
  rw [(writes_independent_of_polling active hydrated schedule_threeEdits).2.1]
  decide

end Sketchbook.Editor
