import Mathlib.Data.List.Infix
import Mathlib.Data.List.Nodup
import Sketchbook.Proofs.Autosave.PayloadFates

/-!
How the two parts of a queue fit together. The last payload of a key and its elapsed ones are kept apart
and are changed apart, but no key has elapsed payloads without a last one (`latest?_isSome_of_elapsed`). So
it is enough to look for the last payload in order to know whether anything waits under a key, and what
`cancel` tells can be relied on (`last_payloads_are_never_missing`).
-/
namespace Sketchbook.QuietQueue

variable {κ β : Type} [DecidableEq κ]

/-! ### Whether anything waits -/

theorem isPending_eq_false_iff {q : QuietQueue κ β} {key : κ} :
    q.isPending key = false ↔ under key q.entries = [] := by
  simp [isPending, under]

theorem isEmpty_iff_isPending {q : QuietQueue κ β} :
    q.isEmpty = true ↔ ∀ key, q.isPending key = false := by
  rw [isEmpty, List.isEmpty_iff]
  constructor
  · intro nothing key
    rw [isPending, nothing]
    rfl
  · intro idle
    refine List.eq_nil_iff_forall_not_mem.mpr fun entry inside => ?_
    have there : q.isPending entry.1 = true :=
      List.any_eq_true.mpr ⟨entry, inside, decide_eq_true rfl⟩
    rw [idle entry.1] at there
    cases there

/-- Nothing waits under a key of which all entries are dropped. -/
private theorem isPending_without (window : Nat) (latest elapsed : List (κ × Waiting β)) (key : κ) :
    isPending ⟨window, without key latest, without key elapsed⟩ key = false := by
  simp [isPending_eq_false_iff, entries]

/-! ### Last payloads -/

variable {q : QuietQueue κ β} {window : Nat} {calls : List (Call κ β)}

/-- The last payload of a key is the last one in the books that waits under it. -/
theorem latest?_of_run (window : Nat) (calls : List (Call κ β)) (key : κ) :
    (after (ofWindow window) calls).latest? key =
      ((books window calls).of key).getLast?.map (Scheduled.wait window) := by
  rw [← latest?_only, books_agree window calls key, latest_ofKey, List.getLast?_map]

/-- A key that has elapsed payloads has a last one. -/
theorem latest?_isSome_of_elapsed {entry : κ × Waiting β}
    (inside : entry ∈ (after (ofWindow window) calls).elapsed) :
    ((after (ofWindow window) calls).latest? entry.1).isSome = true := by
  have own : entry ∈ ((after (ofWindow window) calls).only entry.1).elapsed :=
    List.mem_filter.mpr ⟨inside, decide_eq_true rfl⟩
  rw [books_agree window calls entry.1, ofKey] at own
  obtain ⟨wait, early, _⟩ := List.mem_map.mp own
  have nonempty := List.ne_nil_of_mem (List.mem_of_mem_dropLast early)
  rw [latest?_of_run, ← List.getLast?_map]
  exact List.getLast?_isSome.mpr nonempty

/-- No key has two last payloads. -/
theorem latest_nodup (window : Nat) (calls : List (Call κ β)) :
    ((after (ofWindow window) calls).latest.map Prod.fst).Nodup := by
  rw [List.nodup_iff_count_le_one]
  intro key
  have own : under key (after (ofWindow window) calls).latest =
      (((books window calls).of key).map (Scheduled.wait window)).getLast?.toList.map (key, ·) :=
    congrArg latest (books_agree window calls key)
  have counted : ((after (ofWindow window) calls).latest.map Prod.fst).count key =
      (under key (after (ofWindow window) calls).latest).length := by
    rw [under, ← List.countP_eq_length_filter]
    simp only [List.count, List.countP_map, Function.comp_def, beq_eq_decide]
  rw [counted, own, List.length_map]
  exact Option.length_toList_le

theorem cancel_of_run (window : Nat) (calls : List (Call κ β)) (key : κ) :
    ((after (ofWindow window) calls).cancel key).1 =
      ((books window calls).of key).getLast?.map Scheduled.payload := by
  rw [cancel, latest?_of_run, Option.map_map]
  rfl

theorem takeNow_of_run (window : Nat) (calls : List (Call κ β)) (key : κ) :
    ((after (ofWindow window) calls).takeNow key).1 =
      ((books window calls).of key).map Scheduled.payload := by
  have own : ((after (ofWindow window) calls).takeNow key).1 =
      (under key (after (ofWindow window) calls).entries).map fun entry => entry.2.payload := rfl
  rw [own, under_entries, List.map_map]
  rfl

/-! ### What a queue can be asked -/

/-- What can be relied on by whoever asks what waits in a queue, after the calls of a run. -/
structure Backed (window : Nat) (calls : List (Call κ β)) (q : QuietQueue κ β) : Prop where
  single : (q.latest.map Prod.fst).Nodup
  /-- A key that has elapsed payloads has a last one as well. -/
  backed : ∀ entry ∈ q.elapsed, (q.latest? entry.1).isSome = true
  /-- A cancelled key tells a payload if and only if something waited under it. -/
  cancels : ∀ key, (q.cancel key).1.isSome = true ↔ q.isPending key = true
  /-- Of the payloads that waited this is the one that was scheduled last. -/
  last : ∀ key, (q.cancel key).1 = ((books window calls).of key).getLast?.map Scheduled.payload
  /-- No other payload has been scheduled under the key since. -/
  recent : ∀ key payload, (q.cancel key).1 = some payload →
    ((scheduled calls).filter fun one => one.key = key).getLast?.map Scheduled.payload = some payload
  /-- A key whose payloads are taken gives the same one at the end. -/
  taken : ∀ key, (q.takeNow key).1.getLast? = (q.cancel key).1
  cancelled : ∀ key, (q.cancel key).2.isPending key = false
  emptied : ∀ key, (q.takeNow key).2.isPending key = false
  /-- All ways to ask whether anything waits come to the same. -/
  size : q.isEmpty = true ↔ q.size = 0
  deadline : q.isEmpty = true ↔ q.nextDeadline = none
  pending : q.isEmpty = true ↔ ∀ key, q.isPending key = false

/-- Whatever calls are made, in whatever order and at whatever times, no key has elapsed payloads without
a last one; so `cancel` tells whether anything waited, and what was scheduled last. -/
theorem last_payloads_are_never_missing (window : Nat) (calls : List (Call κ β)) :
    Backed window calls (after (ofWindow window) calls) where
  single := latest_nodup window calls
  backed _ inside := latest?_isSome_of_elapsed inside
  cancels key := by
    rw [cancel_of_run, Option.isSome_map, List.getLast?_isSome, ← Bool.not_eq_false,
      isPending_eq_false_iff, under_entries, List.map_eq_nil_iff]
  last := cancel_of_run window calls
  recent key payload told := by
    rw [cancel_of_run] at told
    obtain ⟨one, last, rfl⟩ := Option.map_eq_some_iff.mp told
    rw [getLast?_of window calls last]
    rfl
  taken key := by rw [takeNow_of_run, cancel_of_run, List.getLast?_map]
  cancelled key := isPending_without _ _ _ key
  emptied key := isPending_without _ _ _ key
  size := isEmpty_iff_size
  deadline := isEmpty_iff_nextDeadline
  pending := isEmpty_iff_isPending

/-- A key that is scheduled again after its window has passed. -/
example : (after (ofWindow 10) [.schedule 1 7 0, .schedule 1 9 12]).elapsed = [(1, ⟨10, 7⟩)] ∧
    ((after (ofWindow 10) [.schedule 1 7 0, .schedule 1 9 12]).cancel 1).1 = some 9 ∧
    ((after (ofWindow 10) [.schedule 1 7 0, .schedule 1 9 12]).takeNow 1).1 = [7, 9] := by
  decide

end Sketchbook.QuietQueue
