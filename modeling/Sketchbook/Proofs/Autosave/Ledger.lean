import Sketchbook.Proofs.Autosave.Run
import Sketchbook.Proofs.Autosave.SingleKey

/-!
Books on the edits of a run. Each edit that is taken is entered, and later its entry moves to the
edits that were superseded, that were written or that were dropped. The books follow the calls alone,
by three rules about the last edit that waits, and know nothing of the queue in the editor.
`Agrees.record` is the simulation between the two: after every event the edits that wait in the books
are what the queue holds, and what moves to the written ones is what the store is asked to put.
-/
namespace Sketchbook.Editor

/-- An edit that was taken, with the place of its event in the run. -/
structure Edit where
  serial : Nat
  document : DocumentId
  text : String
  time : Nat
  /-- From this time on no other edit can supersede it. -/
  deadline : Nat
  deriving DecidableEq

namespace Edit

/-- What the store is asked to put for an edit. -/
def entry (edit : Edit) : DocumentId × String := (edit.document, edit.text)

/-- How an edit stands in the queue. -/
def waiting (edit : Edit) : Waiting String := ⟨edit.deadline, edit.text⟩

end Edit

variable {σ : Type}

/-- The edit that a step takes. -/
def Step.edit? (s : Step σ) : Option Edit :=
  match s.event, s.before.active, s.before.content with
  | .change m now, some d, some _ =>
    match encode m with
    | .ok (_, text) => some ⟨s.serial, d.id, text, now, now + s.before.waiting.window⟩
    | .error _ => none
  | _, _, _ => none

/-- An edit is refused and changes nothing, or it is taken and its text goes into the queue. -/
theorem change_cases (serial : Nat) (e : Editor σ) (m : Model) (now : Nat) :
    (Step.edit? ⟨serial, e, .change m now⟩ = none ∧ (e.change m now).value = (false, e)) ∨
      ∃ d content text, e.active = some d ∧ encode m = .ok (content, text) ∧
        Step.edit? ⟨serial, e, .change m now⟩ =
          some ⟨serial, d.id, text, now, now + e.waiting.window⟩ ∧
        (e.change m now).value =
          (true, { e with content := some content,
                          waiting := (e.waiting.schedule d.id text now).2 }) := by
  rw [value_change]
  cases active : e.active with
  | none => exact Or.inl (by simp [Step.edit?, active])
  | some d =>
    cases loaded : e.content with
    | none => exact Or.inl (by simp [Step.edit?, active, loaded])
    | some old =>
      cases encoded : encode m with
      | error error => exact Or.inl (by simp [Step.edit?, active, loaded, encoded])
      | ok written =>
        obtain ⟨content, text⟩ := written
        exact Or.inr ⟨d, content, text, rfl, rfl, by simp [Step.edit?, active, loaded, encoded]⟩

/-- Where the edits of a run have gone. -/
structure Ledger where
  /-- The edits that wait, in the order in which they came. -/
  pending : List Edit := []
  /-- Each with the edit that superseded it. -/
  superseded : List (Edit × Edit) := []
  written : List Edit := []
  /-- Each with the serial of the event that dropped it. -/
  dropped : List (Edit × Nat) := []

namespace Ledger

/-- A new edit supersedes the last one that waits if it comes before its deadline. -/
def take (l : Ledger) (edit : Edit) : Ledger :=
  match l.pending.getLast? with
  | some last =>
    if edit.time < last.deadline then
      { l with pending := l.pending.dropLast ++ [edit],
               superseded := l.superseded ++ [(last, edit)] }
    else { l with pending := l.pending ++ [edit] }
  | none => { l with pending := [edit] }

/-- All that wait are written, but not the last one before its deadline. -/
def collect (l : Ledger) (now : Nat) : Ledger :=
  match l.pending.getLast? with
  | some last =>
    if last.deadline ≤ now then { l with pending := [], written := l.written ++ l.pending }
    else { l with pending := [last], written := l.written ++ l.pending.dropLast }
  | none => l

/-- All that wait are written. -/
def settle (l : Ledger) : Ledger := { l with pending := [], written := l.written ++ l.pending }

/-- All that wait are dropped. -/
def drop (l : Ledger) (serial : Nat) : Ledger :=
  { l with pending := [], dropped := l.dropped ++ l.pending.map (·, serial) }

/-- Enters a step. -/
def record (l : Ledger) (s : Step σ) : Ledger :=
  match s.event with
  | .activate _ | .deactivate | .open _ => l.drop s.serial
  | .change _ _ =>
    match s.edit? with
    | some edit => l.take edit
    | none => l
  | .poll now => l.collect now
  | .flush => l.settle
  | .hydrate | .beginHydration | .completeHydration _ _ | .elsewhere _ => l

/-- All entries, wherever they stand. -/
def all (l : Ledger) : List Edit :=
  l.superseded.map Prod.fst ++ l.written ++ l.dropped.map Prod.fst ++ l.pending

end Ledger

/-! ### What each operation moves, and what it leaves -/

namespace Ledger

@[simp] theorem written_take (l : Ledger) (edit : Edit) : (l.take edit).written = l.written := by
  unfold take
  split
  · split <;> rfl
  · rfl

@[simp] theorem dropped_take (l : Ledger) (edit : Edit) : (l.take edit).dropped = l.dropped := by
  unfold take
  split
  · split <;> rfl
  · rfl

@[simp] theorem superseded_collect (l : Ledger) (now : Nat) :
    (l.collect now).superseded = l.superseded := by
  unfold collect
  split
  · split <;> rfl
  · rfl

@[simp] theorem dropped_collect (l : Ledger) (now : Nat) : (l.collect now).dropped = l.dropped := by
  unfold collect
  split
  · split <;> rfl
  · rfl

theorem mem_pending_take {l : Ledger} {edit one : Edit} (member : one ∈ (l.take edit).pending) :
    one = edit ∨ one ∈ l.pending := by
  rcases List.eq_nil_or_concat' l.pending with nothing | ⟨before, last, parts⟩
  · exact Or.inl (by simpa [take, nothing] using member)
  · rw [parts]
    by_cases inside : edit.time < last.deadline
    · have shape : one ∈ before ∨ one = edit := by simpa [take, parts, inside] using member
      exact shape.elim (fun earlier => Or.inr (List.mem_append_left _ earlier)) Or.inl
    · have shape : one ∈ before ∨ one = last ∨ one = edit := by
        simpa [take, parts, inside] using member
      rcases shape with earlier | rfl | new
      · exact Or.inr (List.mem_append_left _ earlier)
      · exact Or.inr (by simp)
      · exact Or.inl new

theorem mem_pending_collect {l : Ledger} {now : Nat} {one : Edit}
    (member : one ∈ (l.collect now).pending) : one ∈ l.pending := by
  rcases List.eq_nil_or_concat' l.pending with nothing | ⟨before, last, parts⟩
  · simp [collect, nothing] at member
  · by_cases due : last.deadline ≤ now
    · simp [collect, parts, due] at member
    · have self : one = last := by simpa [collect, parts, due] using member
      simp [parts, self]

/-- What a collection leaves in the books is what it leaves in the queue. -/
private theorem pending_collect (l : Ledger) (now : Nat) :
    (l.collect now).pending.map Edit.waiting =
      QuietQueue.leftOf now (l.pending.map Edit.waiting) := by
  rcases List.eq_nil_or_concat' l.pending with nothing | ⟨before, last, parts⟩
  · simp [collect, nothing, QuietQueue.leftOf]
  · by_cases due : last.deadline ≤ now <;>
      simp [collect, parts, QuietQueue.leftOf, due, Edit.waiting]

/-- What a collection moves in the books is what it takes from the queue. -/
private theorem written_collect (l : Ledger) (now : Nat) :
    ∃ moved, (l.collect now).written = l.written ++ moved ∧
      moved.map Edit.waiting = QuietQueue.dueOf now (l.pending.map Edit.waiting) ∧
      ∀ edit ∈ moved, edit ∈ l.pending := by
  rcases List.eq_nil_or_concat' l.pending with nothing | ⟨before, last, parts⟩
  · exact ⟨[], by simp [collect, nothing], by simp [nothing, QuietQueue.dueOf], by simp⟩
  · by_cases due : last.deadline ≤ now
    · exact ⟨l.pending, by simp [collect, parts, due],
        by simp [parts, QuietQueue.dueOf, due, Edit.waiting], fun _ => id⟩
    · exact ⟨before, by simp [collect, parts, due],
        by simp [parts, QuietQueue.dueOf, due, Edit.waiting], by simp +contextual [parts]⟩

private theorem all_take (l : Ledger) (edit : Edit) : (l.take edit).all.Perm (l.all ++ [edit]) := by
  obtain ⟨pending, superseded, written, dropped⟩ := l
  rw [List.perm_iff_count]
  intro other
  rcases List.eq_nil_or_concat' pending with rfl | ⟨before, last, rfl⟩
  · simp [take, all]
  · by_cases inside : edit.time < last.deadline
    · simp [take, all, inside, List.count_cons]
      omega
    · simp [take, all, inside]

private theorem all_collect (l : Ledger) (now : Nat) : (l.collect now).all.Perm l.all := by
  obtain ⟨pending, superseded, written, dropped⟩ := l
  rw [List.perm_iff_count]
  intro other
  rcases List.eq_nil_or_concat' pending with rfl | ⟨before, last, rfl⟩
  · rfl
  · by_cases due : last.deadline ≤ now
    · simp [collect, all, due, List.count_cons]
      omega
    · simp [collect, all, due, List.count_cons]
      omega

private theorem all_settle (l : Ledger) : l.settle.all.Perm l.all := by
  rw [List.perm_iff_count]
  intro other
  simp only [settle, all, List.count_append, List.count_nil]
  omega

private theorem all_drop (l : Ledger) (serial : Nat) : (l.drop serial).all.Perm l.all := by
  have entries : (l.pending.map (·, serial)).map Prod.fst = l.pending := by
    simp [Function.comp_def]
  rw [List.perm_iff_count]
  intro other
  simp only [drop, all, List.map_append, entries, List.count_append, List.count_nil]
  omega

/-! ### What a step does to the books -/

/-- A step adds the edit that it takes and moves the others. -/
theorem all_record (l : Ledger) (s : Step σ) :
    (l.record s).all.Perm (l.all ++ s.edit?.toList) := by
  obtain ⟨serial, e, event⟩ := s
  cases event with
  | change m now =>
    cases taken : Step.edit? ⟨serial, e, .change m now⟩ with
    | none => simp [record, taken]
    | some edit => simpa [record, taken] using all_take l edit
  | activate d => simpa [record, Step.edit?] using all_drop l serial
  | deactivate => simpa [record, Step.edit?] using all_drop l serial
  | «open» d => simpa [record, Step.edit?] using all_drop l serial
  | poll now => simpa [record, Step.edit?] using all_collect l now
  | flush => simpa [record, Step.edit?] using all_settle l
  | hydrate => simp [record, Step.edit?]
  | beginHydration => simp [record, Step.edit?]
  | completeHydration ticket fetched => simp [record, Step.edit?]
  | elsewhere f => simp [record, Step.edit?]

/-- An edit is superseded while it waits, by the edit that the step takes. -/
theorem superseded_record {l : Ledger} {s : Step σ} {old new : Edit}
    (member : (old, new) ∈ (l.record s).superseded) :
    (old, new) ∈ l.superseded ∨
      (old ∈ l.pending ∧ s.edit? = some new ∧ new.time < old.deadline) := by
  obtain ⟨serial, e, event⟩ := s
  cases event with
  | change m now =>
    cases entered : Step.edit? ⟨serial, e, .change m now⟩ with
    | none => exact Or.inl (by simpa [record, entered] using member)
    | some edit =>
      simp only [record, entered] at member
      rcases List.eq_nil_or_concat' l.pending with nothing | ⟨before, last, parts⟩
      · exact Or.inl (by simpa [take, nothing] using member)
      · by_cases inside : edit.time < last.deadline
        · have shape : (old, new) ∈ l.superseded ∨ old = last ∧ new = edit := by
            simpa [take, parts, inside] using member
          rcases shape with earlier | ⟨rfl, rfl⟩
          · exact Or.inl earlier
          · exact Or.inr ⟨by simp [parts], rfl, inside⟩
        · exact Or.inl (by simpa [take, parts, inside] using member)
  | poll now => exact Or.inl (by simpa [record] using member)
  | _ => exact Or.inl member

/-- All that waits is dropped when the document is left, and nothing is dropped otherwise. -/
theorem dropped_record (l : Ledger) (s : Step σ) :
    (l.record s).dropped =
      l.dropped ++ if s.event.leaves then l.pending.map (·, s.serial) else [] := by
  obtain ⟨serial, e, event⟩ := s
  cases event with
  | activate d => simp [record, drop, Event.leaves]
  | deactivate => simp [record, drop, Event.leaves]
  | «open» d => simp [record, drop, Event.leaves]
  | change m now =>
    cases entered : Step.edit? ⟨serial, e, .change m now⟩ <;> simp [record, entered, Event.leaves]
  | poll now => simp [record, Event.leaves]
  | flush => simp [record, settle, Event.leaves]
  | _ => simp [record, Event.leaves]

/-- A change writes nothing by itself. -/
theorem written_change (l : Ledger) (serial : Nat) (e : Editor σ) (m : Model) (now : Nat) :
    (l.record ⟨serial, e, .change m now⟩).written = l.written := by
  cases entered : Step.edit? ⟨serial, e, .change m now⟩ <;> simp [record, entered]

/-- Leaving the document writes nothing. -/
theorem written_of_leaves (l : Ledger) {s : Step σ} (leaves : s.event.leaves = true) :
    (l.record s).written = l.written := by
  obtain ⟨serial, e, event⟩ := s
  cases event with
  | activate d => rfl
  | deactivate => rfl
  | «open» d => rfl
  | _ => cases leaves

/-- A collection moves edits and keeps their order. -/
private theorem whole_collect (l : Ledger) (now : Nat) :
    (l.collect now).written ++ (l.collect now).pending = l.written ++ l.pending := by
  rcases List.eq_nil_or_concat' l.pending with nothing | ⟨before, last, parts⟩
  · simp [collect, nothing]
  · by_cases due : last.deadline ≤ now <;> simp [collect, parts, due]

/-- As long as the document is not left, the last edit of all is the last that waits, or the last that
was written. -/
theorem last_record (l : Ledger) {s : Step σ} (stays : s.event.leaves = false) :
    ((l.record s).written ++ (l.record s).pending).getLast? =
      s.edit?.or (l.written ++ l.pending).getLast? := by
  obtain ⟨serial, e, event⟩ := s
  cases event with
  | activate d => cases stays
  | deactivate => cases stays
  | «open» d => cases stays
  | change m now =>
    cases entered : Step.edit? ⟨serial, e, .change m now⟩ with
    | none => simp [record, entered]
    | some edit =>
      simp only [record, entered, Option.some_or, take]
      split
      · split <;> simp
      · simp
  | poll now => simpa [record, Step.edit?] using congrArg List.getLast? (whole_collect l now)
  | flush => simp [record, settle, Step.edit?]
  | _ => simp [record, Step.edit?]

/-- What a step moves to the written edits stands after those that were written before, and it waited
until then. -/
theorem written_record (l : Ledger) (s : Step σ) :
    ∃ moved, (l.record s).written = l.written ++ moved ∧ ∀ edit ∈ moved, edit ∈ l.pending := by
  obtain ⟨serial, e, event⟩ := s
  cases event with
  | change m now => exact ⟨[], by rw [written_change, List.append_nil], by simp⟩
  | poll now =>
    obtain ⟨moved, written, _, waited⟩ := written_collect l now
    exact ⟨moved, written, waited⟩
  | flush => exact ⟨l.pending, rfl, fun _ => id⟩
  | _ => exact ⟨[], by simp [record, drop], by simp⟩

/-- An edit that waits after a step has just been taken, or it waited before and its document was not
left. -/
theorem mem_pending_record {l : Ledger} {s : Step σ} {one : Edit}
    (waits : one ∈ (l.record s).pending) :
    s.edit? = some one ∨ (one ∈ l.pending ∧ s.event.leaves = false) := by
  obtain ⟨serial, e, event⟩ := s
  cases event with
  | activate d => cases waits
  | deactivate => cases waits
  | «open» d => cases waits
  | flush => cases waits
  | change m now =>
    cases entered : Step.edit? ⟨serial, e, .change m now⟩ with
    | none => exact Or.inr ⟨by simpa [record, entered] using waits, rfl⟩
    | some edit =>
      simp only [record, entered] at waits
      rcases mem_pending_take waits with rfl | earlier
      · exact Or.inl rfl
      · exact Or.inr ⟨earlier, rfl⟩
  | poll now => exact Or.inr ⟨mem_pending_collect waits, rfl⟩
  | hydrate => exact Or.inr ⟨waits, rfl⟩
  | beginHydration => exact Or.inr ⟨waits, rfl⟩
  | completeHydration ticket fetched => exact Or.inr ⟨waits, rfl⟩
  | elsewhere f => exact Or.inr ⟨waits, rfl⟩

end Ledger

/-! ### The books and the queue -/

/-- The edits that wait in the books are what waits in the editor: all of them are of the active
document, which is loaded. -/
structure Ledger.Agrees (l : Ledger) (e : Editor σ) : Prop where
  queue : ∀ d, e.active = some d →
    e.waiting = .ofKey e.waiting.window d.id (l.pending.map Edit.waiting)
  idle : e.active = none → e.waiting.clear = e.waiting ∧ l.pending = []
  own : ∀ d, e.active = some d → ∀ edit ∈ l.pending, edit.document = d.id
  loaded : l.pending ≠ [] → e.content.isSome = true

namespace Ledger

/-- New books agree with an editor in which nothing waits. -/
theorem agrees_of_idle {e : Editor σ} (idle : e.waiting.isEmpty = true) : Agrees {} e := by
  have shape : e.waiting.clear = e.waiting := QuietQueue.clear_of_isEmpty idle
  exact ⟨fun d _ => shape.symm, fun _ => ⟨shape, rfl⟩, by simp, by simp⟩

private theorem agrees_emptied {l : Ledger} {e left : Editor σ}
    (cleared : left.waiting = e.waiting.clear) (emptied : l.pending = []) : Agrees l left where
  queue d _ := by
    rw [cleared, emptied]
    rfl
  idle _ := ⟨by rw [cleared]; rfl, emptied⟩
  own := by simp [emptied]
  loaded := by simp [emptied]

/-- What the queue holds for an active document. -/
theorem Agrees.pending_is_waiting {l : Ledger} {e : Editor σ} (agrees : l.Agrees e) :
    e.waiting.entries = l.pending.map fun edit => (edit.document, edit.waiting) := by
  cases active : e.active with
  | none =>
    obtain ⟨shape, nothing⟩ := agrees.idle active
    rw [← shape, nothing]
    rfl
  | some d =>
    rw [agrees.queue d active, QuietQueue.entries_ofKey, List.map_map]
    refine List.map_congr_left fun edit member => ?_
    simp [agrees.own d active edit member]

private theorem agrees_of_same {l : Ledger} {e changed : Editor σ} (agrees : l.Agrees e)
    (active : changed.active = e.active) (waiting : changed.waiting = e.waiting)
    (loaded : e.content.isSome = true → changed.content.isSome = true) : l.Agrees changed where
  queue d found := by
    rw [waiting]
    exact agrees.queue d (active.symm.trans found)
  idle absent := by
    rw [waiting]
    exact agrees.idle (active.symm.trans absent)
  own d found := agrees.own d (active.symm.trans found)
  loaded some := loaded (agrees.loaded some)

private theorem agrees_take {l : Ledger} {e : Editor σ} (agrees : l.Agrees e) {d : Descriptor}
    (active : e.active = some d) (edit : Edit) (own : edit.document = d.id)
    (deadline : edit.deadline = edit.time + e.waiting.window) (content : Content) :
    (l.take edit).Agrees
      { e with content := some content,
               waiting := (e.waiting.schedule d.id edit.text edit.time).2 } := by
  have shape := agrees.queue d active
  have others := agrees.own d active
  generalize e.waiting.window = window at shape deadline
  have entered : (⟨edit.time + window, edit.text⟩ : Waiting String) = edit.waiting := by
    rw [Edit.waiting, deadline]
  have scheduled := QuietQueue.schedule_ofKey window d.id (l.pending.map Edit.waiting)
    edit.text edit.time
  rw [entered] at scheduled
  have pending : (e.waiting.schedule d.id edit.text edit.time).2 =
      .ofKey window d.id ((l.take edit).pending.map Edit.waiting) := by
    rw [shape, scheduled]
    rcases List.eq_nil_or_concat' l.pending with nothing | ⟨before, last, parts⟩
    · simp [take, nothing]
    · by_cases inside : edit.time < last.deadline
      · have early : ¬ last.deadline ≤ edit.time := Nat.not_le_of_lt inside
        simp [take, parts, inside, early, Edit.waiting]
      · have late : last.deadline ≤ edit.time := Nat.le_of_not_lt inside
        simp [take, parts, inside, late, Edit.waiting]
  constructor
  case queue =>
    intro other found
    obtain rfl : d = other := Option.some.inj (active.symm.trans found)
    simp only [pending, QuietQueue.window_ofKey]
  case idle => simp [active]
  case own =>
    intro other found one member
    obtain rfl : d = other := Option.some.inj (active.symm.trans found)
    rcases mem_pending_take member with rfl | earlier
    · exact own
    · exact others one earlier
  case loaded => simp

private theorem agrees_collect {l : Ledger} {e : Editor σ} (agrees : l.Agrees e) (now : Nat)
    (library : Library σ) :
    (l.collect now).Agrees { e with library, waiting := (e.waiting.takeDue now).2 } ∧
      (l.collect now).written.map Edit.entry =
        l.written.map Edit.entry ++ (e.waiting.takeDue now).1 := by
  cases active : e.active with
  | none =>
    obtain ⟨shape, nothing⟩ := agrees.idle active
    have same : l.collect now = l := by simp [collect, nothing]
    have taken : e.waiting.takeDue now = ([], e.waiting.clear) := by
      rw [← shape]
      rfl
    rw [same, taken]
    exact ⟨agrees_of_same agrees active.symm shape id, by simp⟩
  | some d =>
    have shape := agrees.queue d active
    have own := agrees.own d active
    generalize e.waiting.window = window at shape
    rw [shape, QuietQueue.takeDue_ofKey]
    constructor
    · constructor
      case queue =>
        intro other found
        obtain rfl : d = other := Option.some.inj found
        simp only [QuietQueue.window_ofKey, pending_collect]
      case idle => simp
      case own =>
        intro other found one member
        obtain rfl : d = other := Option.some.inj found
        exact own one (mem_pending_collect member)
      case loaded =>
        intro waiting
        refine agrees.loaded fun nothing => waiting ?_
        simp [collect, nothing]
    · obtain ⟨moved, written, due, inside⟩ := written_collect l now
      have named : moved.map Edit.entry = moved.map fun edit => (d.id, edit.waiting.payload) :=
        List.map_congr_left fun edit member => by
          rw [Edit.entry, own edit (inside edit member), Edit.waiting]
      rw [written, List.map_append, named, ← due, List.map_map]
      rfl

private theorem agrees_settle {l : Ledger} {e : Editor σ} (agrees : l.Agrees e) {d : Descriptor}
    (active : e.active = some d) (library : Library σ) :
    l.settle.Agrees { e with library, waiting := (e.waiting.takeNow d.id).2 } ∧
      l.settle.written.map Edit.entry =
        l.written.map Edit.entry ++ (e.waiting.takeNow d.id).1.map fun text => (d.id, text) := by
  have shape := agrees.queue d active
  have named : l.pending.map Edit.entry = l.pending.map fun edit => (d.id, edit.text) :=
    List.map_congr_left fun edit member => by rw [Edit.entry, agrees.own d active edit member]
  generalize e.waiting.window = window at shape
  rw [shape, QuietQueue.takeNow_ofKey]
  constructor
  · exact agrees_emptied (e := e) (by rw [shape]; rfl) rfl
  · simp [settle, named, Edit.waiting]

end Ledger

/-! ### The books of a run -/

variable [Records σ]

/-- The edits that a run takes, in order. -/
def edits (e : Editor σ) (events : List (Event σ)) : List Edit :=
  (steps e events).filterMap Step.edit?

/-- The books after a run. -/
def ledger (e : Editor σ) (events : List (Event σ)) : Ledger :=
  (steps e events).foldl Ledger.record {}

@[simp] theorem ledger_nil (e : Editor σ) : ledger e [] = {} := rfl

@[simp] theorem ledger_concat (e : Editor σ) (events : List (Event σ)) (event : Event σ) :
    ledger e (events ++ [event]) =
      (ledger e events).record ⟨events.length, after e events, event⟩ := by
  simp [ledger, List.foldl_append]

@[simp] theorem edits_nil (e : Editor σ) : edits e [] = [] := rfl

@[simp] theorem edits_concat (e : Editor σ) (events : List (Event σ)) (event : Event σ) :
    edits e (events ++ [event]) =
      edits e events ++ (Step.edit? ⟨events.length, after e events, event⟩).toList := by
  cases taken : Step.edit? ⟨events.length, after e events, event⟩ <;>
    simp [edits, List.filterMap_append, taken]

namespace Ledger

/-- One event keeps the books and the queue in agreement, and the edits that it moves to the written
ones are what it hands to the store. -/
theorem Agrees.record {l : Ledger} {s : Step σ} (agrees : l.Agrees s.before) :
    (l.record s).Agrees s.after ∧
      (l.record s).written.map Edit.entry = l.written.map Edit.entry ++ s.reply.attempts := by
  obtain ⟨serial, e, event⟩ := s
  cases event with
  | activate d => exact ⟨agrees_emptied rfl rfl, (List.append_nil _).symm⟩
  | deactivate => exact ⟨agrees_emptied rfl rfl, (List.append_nil _).symm⟩
  | «open» d =>
    have cleared : (Step.after ⟨serial, e, .open d⟩).waiting = e.waiting.clear := by
      rw [Step.after, step, value_open]
    exact ⟨agrees_emptied cleared rfl, (List.append_nil _).symm⟩
  | hydrate =>
    refine ⟨agrees_of_same agrees ?_ ?_ ?_, (List.append_nil _).symm⟩ <;>
      simp only [Step.after, step, value_hydrate] <;> split <;> simp
  | beginHydration => exact ⟨agrees, (List.append_nil _).symm⟩
  | completeHydration ticket fetched =>
    refine ⟨agrees_of_same agrees ?_ ?_ ?_, (List.append_nil _).symm⟩ <;>
      simp only [Step.after, step, value_completeHydration] <;> split <;> simp
  | change m now =>
    rcases change_cases serial e m now with ⟨idle, refused⟩ | ⟨d, content, text, active, _, edited, taken⟩
    · have kept : l.record ⟨serial, e, .change m now⟩ = l := by simp [Ledger.record, idle]
      rw [kept, Step.after, step, refused]
      exact ⟨agrees, (List.append_nil _).symm⟩
    · have entered : l.record ⟨serial, e, .change m now⟩ =
          l.take ⟨serial, d.id, text, now, now + e.waiting.window⟩ := by
        simp [Ledger.record, edited]
      rw [entered, Step.after, step, taken]
      refine ⟨agrees_take agrees active _ rfl rfl content, ?_⟩
      rw [written_take]
      exact (List.append_nil _).symm
  | poll now =>
    exact agrees_collect agrees now (writeAll e.library (e.waiting.takeDue now).1).value.2
  | flush =>
    cases active : e.active with
    | none =>
      have nothing : l.pending = [] := (agrees.idle active).2
      have kept : l.settle = l := by
        rw [settle, nothing, List.append_nil, ← nothing]
      simp only [Ledger.record, kept, Step.after, Step.reply, step, value_flush, attemptsAt, active]
      exact ⟨agrees, (List.append_nil _).symm⟩
    | some d =>
      simp only [Ledger.record, Step.after, Step.reply, step, value_flush, attemptsAt, active]
      simpa only [active] using agrees_settle agrees active _
  | elsewhere f => exact ⟨agrees_of_same agrees rfl rfl id, (List.append_nil _).symm⟩

/-- An event that moves entries to the written ones hands just these to the store. -/
theorem Agrees.attempts_of_moved {l : Ledger} {s : Step σ} (agrees : l.Agrees s.before)
    (moved : (l.record s).written = l.written ++ more) : s.reply.attempts = more.map Edit.entry := by
  have written := agrees.record.2
  rw [moved, List.map_append] at written
  exact (List.append_cancel_left written).symm

end Ledger

variable {e : Editor σ}

/-- The books of a run that starts with nothing waiting agree with the editor that it leaves. -/
theorem ledger_agrees (idle : e.waiting.isEmpty = true) (events : List (Event σ)) :
    (ledger e events).Agrees (after e events) := by
  induction events using List.reverseRecOn with
  | nil => exact Ledger.agrees_of_idle idle
  | append_singleton events event ih =>
    rw [ledger_concat, after_concat]
    exact (Ledger.Agrees.record (s := ⟨events.length, after e events, event⟩) ih).1

/-- The store is asked to put the written edits, in their order. -/
theorem attempts_eq_written (idle : e.waiting.isEmpty = true) (events : List (Event σ)) :
    attempts e events = (ledger e events).written.map Edit.entry := by
  induction events using List.reverseRecOn with
  | nil => rfl
  | append_singleton events event ih =>
    have moved := (Ledger.Agrees.record (s := ⟨events.length, after e events, event⟩)
      (ledger_agrees idle events)).2
    rw [attempts_concat, ledger_concat, moved, ih]
    rfl

/-- In a run that never leaves its document the last edit of all is the last that waits, or the last
that was written. -/
theorem last_of_stays {events : List (Event σ)} (stays : ∀ event ∈ events, event.leaves = false) :
    ((ledger e events).written ++ (ledger e events).pending).getLast? =
      (edits e events).getLast? := by
  induction events using List.reverseRecOn with
  | nil => rfl
  | append_singleton events event ih =>
    have last : (Step.mk events.length (after e events) event).event.leaves = false :=
      stays event (by simp)
    rw [ledger_concat, edits_concat, Ledger.last_record _ last,
      ih fun event member => stays event (List.mem_append_left _ member), List.getLast?_append]
    cases Step.edit? ⟨events.length, after e events, event⟩ <;> rfl

/-- The books hold every edit of the run, once. -/
theorem all_perm_edits (e : Editor σ) (events : List (Event σ)) :
    (ledger e events).all.Perm (edits e events) := by
  induction events using List.reverseRecOn with
  | nil => exact .nil
  | append_singleton events event ih =>
    rw [ledger_concat, edits_concat]
    exact (Ledger.all_record _ _).trans (ih.append_right _)

end Sketchbook.Editor
