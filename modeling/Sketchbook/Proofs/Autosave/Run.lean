import Mathlib.Data.List.Induction
import Sketchbook.Autosave.Editor
import Sketchbook.Store.Memory

/-!
Runs of an editor: any calls of its host in any order and with any times, and between them anything
that somebody else does to the store. A run is told as its steps, each with the editor that it found
and what its caller learned. `puts_of_step` says that the writes which a step reports are exactly the
puts that it makes.
-/
namespace Sketchbook.Editor

/-- What can happen to an editor. -/
inductive Event (σ : Type) where
  | activate (d : Descriptor)
  | deactivate
  | «open» (d : Descriptor)
  | hydrate
  | beginHydration
  | completeHydration (ticket : Ticket) (fetched : Except StoreError Content)
  | change (m : Model) (now : Nat)
  | poll (now : Nat)
  | flush
  /-- Somebody else does something to the store. -/
  | elsewhere (f : σ → σ)

/-- Whether the active document is left for another one or for none. -/
def Event.leaves : Event σ → Bool
  | .activate _ | .deactivate | .open _ => true
  | _ => false

/-- Whether a document becomes the active one. -/
def Event.activates : Event σ → Bool
  | .activate _ | .open _ => true
  | _ => false

/-- Whether somebody else acts. -/
def Event.isElsewhere : Event σ → Bool
  | .elsewhere _ => true
  | _ => false

/-- What the caller of an event learns. -/
structure Reply where
  /-- Whether an edit or an answer was taken. -/
  taken : Bool := false
  ticket : Option Ticket := none
  /-- The texts that were handed to the store, in order. -/
  attempts : List (DocumentId × String) := []
  outcomes : List WriteOutcome := []
  notices : List Notice := []

variable {σ : Type}

/-- The texts that an event hands to the store. -/
def attemptsAt (e : Editor σ) : Event σ → List (DocumentId × String)
  | .poll now => (e.waiting.takeDue now).1
  | .flush =>
    match e.active with
    | none => []
    | some d => (e.waiting.takeNow d.id).1.map fun text => (d.id, text)
  | _ => []

/-! ### What the calls come to -/

@[simp] theorem value_activate (e : Editor σ) (d : Descriptor) :
    (e.activate d).value =
      { e with active := some d, content := none, waiting := e.waiting.clear,
               activation := e.activation + 1 } := rfl

@[simp] theorem value_deactivate (e : Editor σ) :
    e.deactivate.value =
      { e with active := none, content := none, waiting := e.waiting.clear,
               activation := e.activation + 1 } := rfl

/-- The content that an answer of the store stands for. -/
def shown : Except StoreError Content → Content
  | .ok content => content
  | .error _ => .emptyScene

/-- An answer is taken if it is for this activation and no content is there yet. -/
theorem value_completeHydration (e : Editor σ) (ticket : Ticket)
    (fetched : Except StoreError Content) :
    (e.completeHydration ticket fetched).value =
      if ticket.activation = e.activation ∧ e.content = none then
        (true, { e with content := some (shown fetched) })
      else (false, e) := by
  by_cases stale : ticket.activation ≠ e.activation ∨ e.content.isSome
  · have refused : ¬ (ticket.activation = e.activation ∧ e.content = none) := by
      rintro ⟨same, absent⟩
      simp [same, absent] at stale
    simp [completeHydration, stale, refused]
  · have accepted : ticket.activation = e.activation ∧ e.content = none := by
      simpa using stale
    cases fetched <;> simp [completeHydration, accepted, shown]

/-- An edit can be written if its data can be told as content. -/
theorem encode_eq_ok {m : Model} {content : Content} {text : String} :
    encode m = .ok (content, text) ↔ Content.ofModel m = .ok content ∧ content.toText = text := by
  cases made : Content.ofModel m with
  | error error => simp [encode, made, bind, Except.bind]
  | ok fresh =>
    simp only [encode, made, bind, Except.bind, pure, Except.pure, Except.ok.injEq, Prod.mk.injEq]
    exact and_congr_right fun same => by rw [same]

/-- An edit is taken if a document is loaded and the edit can be written as text. -/
theorem value_change (e : Editor σ) (m : Model) (now : Nat) :
    (e.change m now).value =
      match e.active, e.content, encode m with
      | some d, some _, .ok (content, text) =>
        (true, { e with content := some content,
                        waiting := (e.waiting.schedule d.id text now).2 })
      | _, _, _ => (false, e) := by
  cases active : e.active with
  | none => simp [change, active]
  | some d =>
    cases content : e.content with
    | none => simp [change, active, content]
    | some old =>
      cases encoded : encode m with
      | error error => simp [change, active, content, encoded]
      | ok written =>
        obtain ⟨fresh, text⟩ := written
        simp only [change, active, content, encoded]
        split <;> rfl

variable [Records σ]

/-- Loading fills in the content of an active document that has none, and changes nothing else. -/
theorem value_hydrate (e : Editor σ) :
    e.hydrate.value =
      match e.content, e.active with
      | none, some d => { e with content := some (shown (e.library.get d.id)) }
      | _, _ => e := by
  cases absent : e.content <;> cases present : e.active <;>
    simp [hydrate, beginHydration, absent, present, value_completeHydration]

@[simp] theorem value_open (e : Editor σ) (d : Descriptor) :
    (e.open d).value =
      { e with active := some d, content := some (shown (e.library.get d.id)),
               waiting := e.waiting.clear, activation := e.activation + 1 } := by
  simp [Editor.open, value_hydrate]

@[simp] theorem value_poll (e : Editor σ) (now : Nat) :
    (e.poll now).value =
      let written := (writeAll e.library (e.waiting.takeDue now).1).value
      (written.1, { e with library := written.2, waiting := (e.waiting.takeDue now).2 }) := rfl

theorem value_flush (e : Editor σ) :
    e.flush.value =
      match e.active with
      | none => ([], e)
      | some d =>
        let written := (writeAll e.library (e.attemptsAt .flush)).value
        (written.1, { e with library := written.2, waiting := (e.waiting.takeNow d.id).2 }) := by
  cases active : e.active <;> simp [flush, attemptsAt, active]

/-! ### Runs -/

/-- What an event does to an editor. -/
def step (e : Editor σ) (event : Event σ) : Reply × Editor σ :=
  match event with
  | .activate d => ({ notices := (e.activate d).notices }, (e.activate d).value)
  | .deactivate => ({ notices := e.deactivate.notices }, e.deactivate.value)
  | .open d => ({ notices := (e.open d).notices }, (e.open d).value)
  | .hydrate => ({ notices := e.hydrate.notices }, e.hydrate.value)
  | .beginHydration => ({ ticket := e.beginHydration }, e)
  | .completeHydration ticket fetched =>
    let answer := e.completeHydration ticket fetched
    ({ taken := answer.value.1, notices := answer.notices }, answer.value.2)
  | .change m now =>
    let answer := e.change m now
    ({ taken := answer.value.1, notices := answer.notices }, answer.value.2)
  | .poll now =>
    let answer := e.poll now
    ({ attempts := e.attemptsAt event, outcomes := answer.value.1, notices := answer.notices },
      answer.value.2)
  | .flush =>
    let answer := e.flush
    ({ attempts := e.attemptsAt event, outcomes := answer.value.1, notices := answer.notices },
      answer.value.2)
  | .elsewhere f => ({}, { e with library := ⟨f e.library.records⟩ })

/-- The editor after events. -/
def after (e : Editor σ) (events : List (Event σ)) : Editor σ :=
  events.foldl (fun e event => (e.step event).2) e

/-- One event of a run: how many events came before it, and the editor that it found. -/
structure Step (σ : Type) where
  serial : Nat
  before : Editor σ
  event : Event σ

def Step.reply (s : Step σ) : Reply := (s.before.step s.event).1

def Step.after (s : Step σ) : Editor σ := (s.before.step s.event).2

/-- The steps of a run that goes on after so many events. -/
def stepsFrom (serial : Nat) (e : Editor σ) : List (Event σ) → List (Step σ)
  | [] => []
  | event :: rest => ⟨serial, e, event⟩ :: stepsFrom (serial + 1) (e.step event).2 rest

/-- The steps of a run. -/
def steps (e : Editor σ) (events : List (Event σ)) : List (Step σ) := stepsFrom 0 e events

/-- All texts that a run hands to the store, in order. -/
def attempts (e : Editor σ) (events : List (Event σ)) : List (DocumentId × String) :=
  (steps e events).flatMap (·.reply.attempts)

/-- All outcomes that a run reports, in order. -/
def outcomes (e : Editor σ) (events : List (Event σ)) : List WriteOutcome :=
  (steps e events).flatMap (·.reply.outcomes)

/-- A document for runs of fixed calls. -/
def sample : Descriptor := ⟨⟨"a", by decide⟩, "A"⟩

/-- Another document for such runs. -/
def otherSample : Descriptor := ⟨⟨"b", by decide⟩, "B"⟩

/-- An editor of an empty store in memory. -/
def blank : Editor MemoryRecords := ofLibrary ⟨{}⟩ 10

/-- The same with the sample document loaded. -/
def opened : Editor MemoryRecords := after blank [.open sample]

/-! ### Runs that go on -/

@[simp] theorem after_nil (e : Editor σ) : after e [] = e := rfl

theorem after_append (e : Editor σ) (first second : List (Event σ)) :
    after e (first ++ second) = after (after e first) second :=
  List.foldl_append

@[simp] theorem after_concat (e : Editor σ) (events : List (Event σ)) (event : Event σ) :
    after e (events ++ [event]) = ((after e events).step event).2 := by
  rw [after_append]
  rfl

theorem stepsFrom_append (serial : Nat) (e : Editor σ) (first second : List (Event σ)) :
    stepsFrom serial e (first ++ second) =
      stepsFrom serial e first ++ stepsFrom (serial + first.length) (after e first) second := by
  induction first generalizing serial e with
  | nil => rfl
  | cons event rest ih =>
    have place : serial + (event :: rest).length = serial + 1 + rest.length := by
      simp only [List.length_cons]
      omega
    rw [place]
    exact congrArg _ (ih (serial + 1) (e.step event).2)

@[simp] theorem steps_nil (e : Editor σ) : steps e [] = [] := rfl

@[simp] theorem steps_concat (e : Editor σ) (events : List (Event σ)) (event : Event σ) :
    steps e (events ++ [event]) =
      steps e events ++ [⟨events.length, after e events, event⟩] := by
  simp [steps, stepsFrom_append, stepsFrom]

/-- The last event of a run is its last step. -/
theorem mem_steps_concat {e : Editor σ} {events : List (Event σ)} {event : Event σ} {s : Step σ} :
    s ∈ steps e (events ++ [event]) ↔
      s ∈ steps e events ∨ s = ⟨events.length, after e events, event⟩ := by
  rw [steps_concat, List.mem_append, List.mem_singleton]

/-- A step is an event of the run at its place, with the editor that the events before it left. -/
theorem mem_steps {e : Editor σ} {events : List (Event σ)} {s : Step σ} :
    s ∈ steps e events ↔
      ∃ prior later, events = prior ++ s.event :: later ∧ s.before = after e prior ∧
        s.serial = prior.length := by
  constructor
  · intro member
    induction events using List.reverseRecOn with
    | nil => cases member
    | append_singleton events event ih =>
      rcases mem_steps_concat.mp member with earlier | rfl
      · obtain ⟨prior, later, rfl, found, place⟩ := ih earlier
        exact ⟨prior, later ++ [event], by simp, found, place⟩
      · exact ⟨events, [], rfl, rfl, rfl⟩
  · rintro ⟨prior, later, rfl, found, place⟩
    have self : s = ⟨prior.length, after e prior, s.event⟩ := by
      rw [← found, ← place]
    rw [steps, stepsFrom_append, List.mem_append, stepsFrom, Nat.zero_add, ← self]
    exact Or.inr List.mem_cons_self

theorem serial_lt_of_mem_steps {e : Editor σ} {events : List (Event σ)} {s : Step σ}
    (member : s ∈ steps e events) : s.serial < events.length := by
  obtain ⟨prior, later, rfl, _, place⟩ := mem_steps.mp member
  simp [place]

theorem getElem?_of_mem_steps {e : Editor σ} {events : List (Event σ)} {s : Step σ}
    (inside : s ∈ steps e events) : events[s.serial]? = some s.event := by
  obtain ⟨prior, later, rfl, _, place⟩ := mem_steps.mp inside
  simp [place]

theorem mem_steps_append {e : Editor σ} {events : List (Event σ)} {s : Step σ}
    (later : List (Event σ)) (inside : s ∈ steps e events) :
    s ∈ steps e (events ++ later) := by
  rw [steps, stepsFrom_append]
  exact List.mem_append_left _ inside

private theorem le_serial_of_mem_stepsFrom {serial : Nat} {e : Editor σ} {events : List (Event σ)}
    {s : Step σ} (inside : s ∈ stepsFrom serial e events) : serial ≤ s.serial := by
  induction events generalizing serial e with
  | nil => cases inside
  | cons event rest ih =>
    rcases List.mem_cons.mp inside with rfl | later
    · exact Nat.le_refl _
    · exact Nat.le_of_succ_le (ih later)

/-- A step that comes early enough is one of the run so far. -/
theorem mem_steps_front {e : Editor σ} {prior later : List (Event σ)} {s : Step σ}
    (inside : s ∈ steps e (prior ++ later)) (early : s.serial < prior.length) : s ∈ steps e prior := by
  rw [steps, stepsFrom_append, List.mem_append] at inside
  refine inside.resolve_right fun late => ?_
  have order := le_serial_of_mem_stepsFrom late
  omega

@[simp] theorem attempts_nil (e : Editor σ) : attempts e [] = [] := rfl

@[simp] theorem attempts_concat (e : Editor σ) (events : List (Event σ)) (event : Event σ) :
    attempts e (events ++ [event]) =
      attempts e events ++ ((after e events).step event).1.attempts := by
  simp [attempts, Step.reply]

@[simp] theorem outcomes_nil (e : Editor σ) : outcomes e [] = [] := rfl

@[simp] theorem outcomes_concat (e : Editor σ) (events : List (Event σ)) (event : Event σ) :
    outcomes e (events ++ [event]) =
      outcomes e events ++ ((after e events).step event).1.outcomes := by
  simp [outcomes, Step.reply]

/-! ### What reaches the store -/

/-- Texts are put under their ids one after the other, each once; these are the answers of the
store, and this is the store afterwards. A refused text does not keep back those after it. -/
inductive Puts : σ → List (DocumentId × String) → List WriteOutcome → σ → Prop where
  | none : Puts records [] [] records
  | saved {document : DocumentId} (answer : Records.put records document.text text = .ok changed)
      (more : Puts changed rest answers final) :
      Puts records ((document, text) :: rest) (⟨document, .ok ()⟩ :: answers) final
  | refused {document : DocumentId}
      (answer : Records.put records document.text text = .error error)
      (more : Puts records rest answers final) :
      Puts records ((document, text) :: rest) (⟨document, .error error⟩ :: answers) final

theorem puts_writeAll (library : Library σ) (due : List (DocumentId × String)) :
    Puts library.records due (writeAll library due).value.1
      (writeAll library due).value.2.records := by
  induction due generalizing library with
  | nil => exact .none
  | cons entry rest ih =>
    obtain ⟨id, text⟩ := entry
    cases answer : Records.put library.records id.text text with
    | ok records =>
      simpa [writeAll, Library.putText, answer] using Puts.saved answer (ih ⟨records⟩)
    | error error =>
      simpa [writeAll, Library.putText, answer] using Puts.refused answer (ih library)

/-- Every outcome is of one text that was put, in the same order. -/
theorem Puts.documents {records final : σ} (puts : Puts records due answers final) :
    answers.map WriteOutcome.document = due.map Prod.fst := by
  induction puts with
  | none => rfl
  | saved answer more ih => simp [ih]
  | refused answer more ih => simp [ih]

/-- Where nothing is put the store stays as it was. -/
theorem Puts.unchanged {records final : σ} (puts : Puts records [] answers final) :
    final = records := by
  cases puts
  rfl

theorem Puts.append {records middle final : σ} (first : Puts records due answers middle)
    (second : Puts middle more others final) :
    Puts records (due ++ more) (answers ++ others) final := by
  induction first with
  | none => exact second
  | saved answer _ ih => exact .saved answer (ih second)
  | refused answer _ ih => exact .refused answer (ih second)

/-- The attempts of a step are the puts that it makes, and its outcomes are their answers. -/
theorem puts_of_step (s : Step σ) (own : s.event.isElsewhere = false) :
    Puts s.before.library.records s.reply.attempts s.reply.outcomes s.after.library.records := by
  obtain ⟨serial, e, event⟩ := s
  cases event with
  | activate d => exact .none
  | deactivate => exact .none
  | «open» d => simpa [Step.reply, Step.after, step] using Puts.none
  | hydrate =>
    cases absent : e.content <;> cases present : e.active <;>
      simpa [Step.reply, Step.after, step, value_hydrate, absent, present] using Puts.none
  | beginHydration => exact .none
  | completeHydration ticket fetched =>
    simp only [Step.reply, Step.after, step, value_completeHydration]
    split <;> exact .none
  | change m now =>
    simp only [Step.reply, Step.after, step, value_change]
    split <;> exact .none
  | poll now => exact puts_writeAll e.library (e.waiting.takeDue now).1
  | flush =>
    simp only [Step.reply, Step.after, step, value_flush]
    cases active : e.active with
    | none => simpa [attemptsAt, active] using Puts.none
    | some d => exact puts_writeAll e.library _
  | elsewhere f => cases own

/-- A run puts what its steps put, if nobody else acts on the store. -/
theorem puts_of_run (e : Editor σ) {events : List (Event σ)}
    (own : ∀ event ∈ events, event.isElsewhere = false) :
    Puts e.library.records (attempts e events) (outcomes e events)
      (after e events).library.records := by
  induction events using List.reverseRecOn with
  | nil => exact .none
  | append_singleton events event ih =>
    rw [attempts_concat, outcomes_concat, after_concat]
    have before := ih fun event member => own event (List.mem_append_left _ member)
    exact before.append (puts_of_step ⟨events.length, after e events, event⟩ (own event (by simp)))

end Sketchbook.Editor
