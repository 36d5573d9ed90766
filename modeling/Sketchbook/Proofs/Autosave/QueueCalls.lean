import Mathlib.Data.List.Induction
import Sketchbook.Proofs.Autosave.SingleKey

/-!
Runs of a queue: any calls in any order and with any times, each with what its caller learns. For a
single key a queue is no more than the queue of that key (`only`), and what the calls tell about the
key is what this smaller queue tells (`heard_told`). So nobody can notice what is done under other
keys (`keys_are_independent`).
-/
namespace Sketchbook.QuietQueue

/-- A call on a queue. -/
inductive Call (κ β : Type) where
  | schedule (key : κ) (payload : β) (now : Nat)
  | cancel (key : κ)
  | clear
  | takeDue (now : Nat)
  | takeNow (key : κ)
  | isPending (key : κ)
  deriving DecidableEq

/-- What the caller learns. -/
structure Reply (κ β : Type) where
  /-- Whether a payload was superseded inside its window. -/
  superseded : Bool := false
  /-- The last one of the payloads that were dropped. -/
  cancelled : Option β := none
  /-- The payloads that were collected, in order. -/
  collected : List (κ × β) := []
  /-- Whether something waits. -/
  pending : Bool := false
  deriving DecidableEq

variable {κ β : Type} [DecidableEq κ]

/-- What a call does to a queue. -/
def perform (q : QuietQueue κ β) (call : Call κ β) : Reply κ β × QuietQueue κ β :=
  match call with
  | .schedule key payload now =>
    ({ superseded := (q.schedule key payload now).1 }, (q.schedule key payload now).2)
  | .cancel key => ({ cancelled := (q.cancel key).1 }, (q.cancel key).2)
  | .clear => ({}, q.clear)
  | .takeDue now => ({ collected := (q.takeDue now).1 }, (q.takeDue now).2)
  | .takeNow key => ({ collected := (q.takeNow key).1.map (key, ·) }, (q.takeNow key).2)
  | .isPending key => ({ pending := q.isPending key }, q)

/-- The queue after calls. -/
def after (q : QuietQueue κ β) (calls : List (Call κ β)) : QuietQueue κ β :=
  calls.foldl (fun q call => (q.perform call).2) q

/-- The calls of a run, each with its reply. -/
def told (q : QuietQueue κ β) : List (Call κ β) → List (Call κ β × Reply κ β)
  | [] => []
  | call :: rest => (call, (q.perform call).1) :: told (q.perform call).2 rest

/-- A queue in which nothing waits. -/
def ofWindow (window : Nat) : QuietQueue κ β := { window }

@[simp] theorem after_nil (q : QuietQueue κ β) : after q [] = q := rfl

@[simp] theorem after_concat (q : QuietQueue κ β) (calls : List (Call κ β)) (call : Call κ β) :
    after q (calls ++ [call]) = ((after q calls).perform call).2 := by
  simp [after]

theorem told_append (q : QuietQueue κ β) (first second : List (Call κ β)) :
    told q (first ++ second) = told q first ++ told (after q first) second := by
  induction first generalizing q with
  | nil => rfl
  | cons call rest ih => exact congrArg _ (ih (q.perform call).2)

@[simp] theorem told_concat (q : QuietQueue κ β) (calls : List (Call κ β)) (call : Call κ β) :
    told q (calls ++ [call]) = told q calls ++ [(call, ((after q calls).perform call).1)] :=
  told_append q calls [call]

@[simp] theorem length_told (q : QuietQueue κ β) (calls : List (Call κ β)) :
    (told q calls).length = calls.length := by
  induction calls generalizing q with
  | nil => rfl
  | cons first rest ih => exact congrArg Nat.succ (ih (q.perform first).2)

omit [DecidableEq κ] in
/-- Every place in a run parts it into the calls before, the call there and those after. -/
theorem split_of_lt_length {calls : List (Call κ β)} {serial : Nat}
    (inside : serial < calls.length) :
    ∃ prior call later, calls = prior ++ call :: later ∧ serial = prior.length := by
  refine ⟨calls.take serial, calls[serial], calls.drop (serial + 1), ?_, ?_⟩
  · rw [← List.drop_eq_getElem_cons inside, List.take_append_drop]
  · exact (List.length_take_of_le (Nat.le_of_lt inside)).symm

/-- A call and its reply stand in a run at the place of the call, and the reply is what the queue
after the calls before it tells. -/
theorem getElem?_told {q : QuietQueue κ β} {calls : List (Call κ β)} {serial : Nat}
    {call : Call κ β} {reply : Reply κ β} :
    (told q calls)[serial]? = some (call, reply) ↔
      ∃ prior later, calls = prior ++ call :: later ∧ serial = prior.length ∧
        reply = ((after q prior).perform call).1 := by
  constructor
  · intro found
    have inside := (List.getElem?_eq_some_iff.mp found).1
    rw [length_told] at inside
    obtain ⟨prior, other, later, rfl, rfl⟩ := split_of_lt_length inside
    rw [told_append, List.getElem?_append_right (by simp)] at found
    simp only [told, length_told, Nat.sub_self, List.getElem?_cons_zero, Option.some.injEq,
      Prod.mk.injEq] at found
    obtain ⟨rfl, rfl⟩ := found
    exact ⟨prior, later, rfl, rfl, rfl⟩
  · rintro ⟨prior, later, rfl, rfl, rfl⟩
    rw [told_append, List.getElem?_append_right (by simp)]
    simp [told]

/-! ### A queue as one of its keys sees it -/

/-- The entries under a key. -/
def under (key : κ) (entries : List (κ × Waiting β)) : List (κ × Waiting β) :=
  entries.filter fun entry => entry.1 = key

/-- What a queue holds under a key. -/
def only (q : QuietQueue κ β) (key : κ) : QuietQueue κ β where
  window := q.window
  latest := under key q.latest
  elapsed := under key q.elapsed

@[simp] theorem under_append (key : κ) (first second : List (κ × Waiting β)) :
    under key (first ++ second) = under key first ++ under key second :=
  List.filter_append ..

@[simp] theorem under_without (key : κ) (entries : List (κ × Waiting β)) :
    under key (without key entries) = [] := by
  simp [under, without]

@[simp] theorem without_under (key : κ) (entries : List (κ × Waiting β)) :
    without key (under key entries) = [] := by
  simp [under, without]

/-- Dropping the entries of another key leaves those of this one. -/
theorem under_without_of_ne {key other : κ} (different : other ≠ key)
    (entries : List (κ × Waiting β)) : under key (without other entries) = under key entries := by
  rw [under, without, List.filter_filter]
  apply List.filter_congr
  intro entry _
  by_cases same : entry.1 = key
  · simp [same, Ne.symm different]
  · simp [same]

@[simp] theorem latest?_only (q : QuietQueue κ β) (key : κ) :
    (q.only key).latest? key = q.latest? key := by
  simp [latest?, only, under, List.find?_filter]

theorem entries_only (q : QuietQueue κ β) (key : κ) :
    (q.only key).entries = under key q.entries :=
  (under_append key q.elapsed q.latest).symm

/-- The key of a call, if it has one. -/
def Call.key? : Call κ β → Option κ
  | .schedule key _ _ | .cancel key | .takeNow key | .isPending key => some key
  | .clear | .takeDue _ => none

/-- Whether a call is on this key or on all of them. -/
def Call.concerns (key : κ) (call : Call κ β) : Bool := call.key?.all (· = key)

theorem Call.key_of_concerns {call : Call κ β} {other key : κ}
    (named : call.key? = some other) (concerned : call.concerns key = true) : other = key := by
  simpa [concerns, named] using concerned

theorem Call.ne_of_elsewhere {call : Call κ β} {other key : κ}
    (named : call.key? = some other) (elsewhere : call.concerns key = false) : other ≠ key := by
  simpa [concerns, named] using elsewhere

/-- Whether a call changes what waits under another key, and only that. -/
def Call.disturbs (key : κ) : Call κ β → Bool
  | .schedule other _ _ | .cancel other | .takeNow other => other ≠ key
  | .clear | .takeDue _ | .isPending _ => false

/-- What a reply tells about a key. -/
def Reply.about (key : κ) (reply : Reply κ β) : Reply κ β :=
  { reply with collected := reply.collected.filter fun entry => entry.1 = key }

/-- What the calls on a key or on all of them tell about the key. -/
def heard (key : κ) (told : List (Call κ β × Reply κ β)) : List (Call κ β × Reply κ β) :=
  (told.filter fun entry => entry.1.concerns key).map fun entry => (entry.1, entry.2.about key)

theorem filter_payloadOf (key : κ) (entries : List (κ × Waiting β)) :
    (entries.map payloadOf).filter (fun entry => entry.1 = key) =
      (under key entries).map payloadOf := by
  rw [under, List.filter_map]
  rfl

theorem under_filter (key : κ) (p : κ × Waiting β → Bool) (entries : List (κ × Waiting β)) :
    under key (entries.filter p) = (under key entries).filter p := by
  simp only [under, List.filter_filter, Bool.and_comm]

/-- A call on a key does to what waits under it, and tells about it, what it does and tells on the
queue of that key alone. -/
theorem perform_only (q : QuietQueue κ β) {key : κ} {call : Call κ β}
    (concerned : call.concerns key = true) :
    (q.only key).perform call = ((q.perform call).1.about key, (q.perform call).2.only key) := by
  -- `clear` and `takeDue` treat each entry by itself; other calls that concern the key are on it.
  cases call with
  | schedule other payload now =>
    obtain rfl := Call.key_of_concerns rfl concerned
    simp only [perform, schedule, latest?_only]
    cases q.latest? other with
    | none => simp [only, Reply.about, under, without]
    | some previous =>
      by_cases due : previous.deadline ≤ now
      · simp [due, only, Reply.about, under, without]
      · simp [due, only, Reply.about, under, without]
  | cancel other =>
    obtain rfl := Call.key_of_concerns rfl concerned
    simp only [perform, cancel, latest?_only]
    simp [only, Reply.about]
  | clear => rfl
  | takeDue now =>
    simp only [perform, takeDue, Reply.about, filter_payloadOf, under_append, under_filter]
    simp only [only, under_filter]
    rfl
  | takeNow other =>
    obtain rfl := Call.key_of_concerns rfl concerned
    simp [perform, takeNow, only, Reply.about, under, without, List.filter_map, Function.comp_def]
  | isPending other =>
    obtain rfl := Call.key_of_concerns rfl concerned
    simp only [perform, isPending, entries_only, Reply.about]
    simp [under, List.any_filter]

/-- A call on another key leaves what waits under this one. -/
theorem only_perform_of_other (q : QuietQueue κ β) {key : κ} {call : Call κ β}
    (elsewhere : call.concerns key = false) : (q.perform call).2.only key = q.only key := by
  cases call with
  | schedule other payload now =>
    have different := Call.ne_of_elsewhere rfl elsewhere
    have fresh (wait : Waiting β) : under key [(other, wait)] = [] := by simp [under, different]
    simp only [perform, schedule]
    split
    · simp [only, under_without_of_ne different, fresh]
    · split <;> simp [only, under_without_of_ne different, fresh]
  | cancel other =>
    have different := Call.ne_of_elsewhere rfl elsewhere
    simp [perform, cancel, only, under_without_of_ne different]
  | takeNow other =>
    have different := Call.ne_of_elsewhere rfl elsewhere
    simp [perform, takeNow, only, under_without_of_ne different]
  | isPending other => rfl
  | clear => cases elsewhere
  | takeDue now => cases elsewhere

/-- A call on another key collects nothing of this one. -/
theorem collected_of_other (q : QuietQueue κ β) {key : κ} {call : Call κ β}
    (elsewhere : call.concerns key = false) :
    (q.perform call).1.collected.filter (fun entry => entry.1 = key) = [] := by
  cases call with
  | takeNow other =>
    have different := Call.ne_of_elsewhere rfl elsewhere
    simp [perform, different]
  | takeDue now => cases elsewhere
  | _ => rfl

/-! ### Runs as one of the keys sees them -/

/-- What the calls tell about a key is what those of them that concern it tell on the queue of that
key alone. -/
theorem heard_told (q : QuietQueue κ β) (key : κ) (calls : List (Call κ β)) :
    heard key (told q calls) = told (q.only key) (calls.filter fun call => call.concerns key) := by
  induction calls generalizing q with
  | nil => rfl
  | cons call rest ih =>
    have next := ih (q.perform call).2
    cases concerned : call.concerns key with
    | true =>
      simp only [heard, told, List.filter_cons, concerned, ↓reduceIte, List.map_cons] at next ⊢
      rw [perform_only q concerned, next]
    | false =>
      rw [only_perform_of_other q concerned] at next
      simpa only [heard, told, List.filter_cons, concerned, Bool.false_eq_true, ↓reduceIte]
        using next

/-- What the calls tell about a key, and in particular which of its payloads each collection returns
and in which order, is the same when everything that was scheduled, cancelled or taken under other
keys is left out. -/
theorem keys_are_independent (q : QuietQueue κ β) (key : κ) (calls : List (Call κ β)) :
    heard key (told q (calls.filter fun call => !call.disturbs key)) =
      heard key (told q calls) := by
  have kept : (calls.filter fun call => !call.disturbs key).filter (fun call => call.concerns key) =
      calls.filter fun call => call.concerns key := by
    rw [List.filter_filter]
    apply List.filter_congr
    intro call _
    cases call <;> simp [Call.concerns, Call.disturbs, Call.key?]
  -- Both runs come to the same run of the queue of the key alone.
  rw [heard_told, heard_told, kept]

end Sketchbook.QuietQueue
