import Sketchbook.Proofs.Autosave.QueueBooks

/-!
What becomes of the payloads of a queue. `every_payload_has_one_fate` says that the books of any run
are right: every payload that was scheduled stands in them once, the replies of the calls bear out
its fate, those that are left are what the queue holds, and under each key the payloads come out in
the order in which they went in.
-/
namespace Sketchbook.QuietQueue

variable {κ β : Type}

def Fate.isReturned : Fate → Bool
  | .returned _ => true
  | .superseded _ | .discarded _ => false

variable [DecidableEq κ]

namespace Books

/-- Those that a call of the run returned, in order. -/
def returnedAt (b : Books κ β) (serial : Nat) : List (Scheduled κ β) :=
  (b.settled.filter fun entry => entry.2 = .returned serial).map Prod.fst

/-- All that were returned, in order. -/
def returned (b : Books κ β) : List (Scheduled κ β) :=
  (b.settled.filter fun entry => entry.2.isReturned).map Prod.fst

/-- The books of a run are right. -/
structure Accounts (window : Nat) (calls : List (Call κ β)) (b : Books κ β) : Prop where
  /-- Every payload stands in one place, once. -/
  complete : (b.settled.map Prod.fst ++ b.waiting).Perm (scheduled calls)
  distinct : (scheduled calls).Pairwise fun earlier later => earlier.serial < later.serial
  /-- A fate comes from a later call of its kind, on the key of the payload or on all keys. -/
  cause : ∀ one fate, (one, fate) ∈ b.settled → one.serial < fate.serial ∧
    ∃ call reply, (told (ofWindow window) calls)[fate.serial]? = some (call, reply) ∧
      call.fate? fate.serial = some fate ∧ call.concerns one.key = true
  /-- A call tells that it superseded a payload if and only if it did. -/
  superseded : ∀ serial key payload now reply,
    (told (ofWindow window) calls)[serial]? = some (.schedule key payload now, reply) →
      (reply.superseded = true ↔ ∃ one, (one, .superseded serial) ∈ b.settled)
  /-- Between a payload and the call that superseded it there was no other of its key. -/
  next : ∀ one serial, (one, .superseded serial) ∈ b.settled →
    ((scheduled (calls.take serial)).filter fun other => other.key = one.key).getLast? = some one
  /-- The payloads that a call collected under a key are those that it returned. -/
  returned : ∀ serial call reply, (told (ofWindow window) calls)[serial]? = some (call, reply) →
    ∀ key, reply.collected.filter (fun entry => entry.1 = key) =
      ((b.returnedAt serial).filter fun one => one.key = key).map Scheduled.entry
  /-- Under a key all collections of the run together return payloads in the order in which they
  were scheduled. -/
  order : ∀ key,
    ((told (ofWindow window) calls).flatMap (·.2.collected)).filter (fun entry => entry.1 = key) =
        (b.returned.filter fun one => one.key = key).map Scheduled.entry ∧
      (b.returned.filter fun one => one.key = key).Sublist
        ((scheduled calls).filter fun one => one.key = key)
  /-- The payloads that are left wait in the queue. -/
  waiting : ∀ key, under key (after (ofWindow window) calls).entries =
    (b.of key).map fun one => (one.key, one.wait window)
  size : (after (ofWindow window) calls).size = b.waiting.length

/-! ### What a call returns under a key -/

/-- Those of a key that a collection settles are returned, and no others. -/
theorem returned_settledBy (window serial : Nat) (b : Books κ β) (call : Call κ β) (key : κ) :
    (((b.settledBy window serial call).filter fun entry => entry.2.isReturned).map Prod.fst).filter
        (fun one => one.key = key) =
      if call.collects then b.hitOf window call key else [] := by
  have kind : ∀ entry ∈ b.settledBy window serial call, entry.2.isReturned = call.collects := by
    rintro ⟨one, fate⟩ member
    obtain ⟨fated, _⟩ := mem_settledBy.mp member
    cases call with
    | isPending other => cases fated
    | _ =>
      obtain rfl := Option.some.inj fated
      rfl
  rw [List.filter_congr kind]
  cases call.collects with
  | false => simp
  | true =>
    rw [List.filter_eq_self.mpr fun _ _ => rfl, map_settledBy]
    simp only [hitOf, of, List.filter_filter, Bool.and_comm, ↓reduceIte]

theorem returned_record (window serial : Nat) (b : Books κ β) (call : Call κ β) (key : κ) :
    ((b.record window serial call).returned.filter fun one => one.key = key) =
      (b.returned.filter fun one => one.key = key) ++
        if call.collects then b.hitOf window call key else [] := by
  rw [← returned_settledBy window serial]
  simp only [returned, record, List.filter_append, List.map_append]

end Books

/-! ### The places in the books -/

variable {window : Nat} {calls : List (Call κ β)}

/-- The last payload that waits under a key is the last that was scheduled. -/
theorem getLast?_of (window : Nat) (calls : List (Call κ β)) {key : κ} {one : Scheduled κ β}
    (last : ((books window calls).of key).getLast? = some one) :
    ((scheduled calls).filter fun other => other.key = key).getLast? = some one := by
  induction calls using List.reverseRecOn with
  | nil => cases last
  | append_singleton calls call ih =>
    rw [books_concat, Books.of_record, List.getLast?_append] at last
    rw [scheduled_concat, List.filter_append, List.getLast?_append]
    by_cases quiet :
        (call.scheduled? calls.length).toList.filter (fun other => other.key = key) = []
    · rw [quiet, List.getLast?_nil, Option.none_or] at last ⊢
      -- What the call leaves under the key is an end of what waited there before.
      have whole := (books_ordered window calls).hit_before_rest window calls.length quiet
      apply ih
      rw [← whole, List.getLast?_append, last, Option.some_or]
    · obtain ⟨front, new, shape⟩ := (List.eq_nil_or_concat' _).resolve_left quiet
      rw [shape, List.getLast?_concat, Option.some_or] at last ⊢
      exact last

/-- What was returned under a key, and then what waits, stands in the order in which it was
scheduled. -/
theorem returned_before_waiting (window : Nat) (calls : List (Call κ β)) (key : κ) :
    (((books window calls).returned.filter fun one => one.key = key) ++
      (books window calls).of key).Sublist ((scheduled calls).filter fun one => one.key = key) := by
  induction calls using List.reverseRecOn with
  | nil => exact .slnil
  | append_singleton calls call ih =>
    -- A collection takes a front part of those that wait; other calls only drop some.
    have moved : ((if call.collects then (books window calls).hitOf window call key else []) ++
        (books window calls).restOf window call key).Sublist ((books window calls).of key) := by
      cases collects : call.collects with
      | false => exact List.filter_sublist
      | true =>
        have quiet : call.scheduled? calls.length = none := by
          cases call with
          | schedule other payload now => cases collects
          | _ => rfl
        rw [if_pos rfl, (books_ordered window calls).hit_before_rest window calls.length
          (by rw [quiet]; rfl)]
    have before := (List.Sublist.append_left moved _).trans ih
    rw [books_concat, Books.returned_record, Books.of_record, scheduled_concat, List.filter_append]
    simpa only [List.append_assoc] using before.append (List.Sublist.refl _)

private theorem cause_of_settled {one : Scheduled κ β} {fate : Fate}
    (member : (one, fate) ∈ (books window calls).settled) :
    one.serial < fate.serial ∧
      ∃ call reply, (told (ofWindow window) calls)[fate.serial]? = some (call, reply) ∧
        call.fate? fate.serial = some fate ∧ call.concerns one.key = true := by
  obtain ⟨prior, call, later, split, place, fated, hit⟩ := exists_of_mem_settled member
  have waited : one ∈ (books window prior).waiting :=
    (Books.mem_of.mp (List.mem_of_mem_filter hit)).1
  rw [place]
  constructor
  · exact serial_lt_of_mem_scheduled ((waiting_sublist window prior).subset waited)
  · exact ⟨call, _, getElem?_told.mpr ⟨prior, later, split, rfl, rfl⟩, fated,
      Books.concerns_of_hit hit⟩

private theorem superseded_iff {serial : Nat} {key : κ} {payload : β} {now : Nat}
    {reply : Reply κ β}
    (found : (told (ofWindow window) calls)[serial]? = some (.schedule key payload now, reply)) :
    reply.superseded = true ↔
      ∃ one, (one, Fate.superseded serial) ∈ (books window calls).settled := by
  obtain ⟨prior, later, rfl, rfl, rfl⟩ := getElem?_told.mp found
  rw [(books_agree window prior).superseded (books_ordered window prior)]
  apply exists_congr
  intro one
  rw [mem_settled_at rfl]
  constructor
  · intro hit
    have own : one.key = key := (Books.mem_of.mp (List.mem_of_mem_filter hit)).2
    rw [own]
    exact ⟨rfl, hit⟩
  · rintro ⟨_, hit⟩
    obtain rfl : key = one.key := Call.key_of_concerns rfl (Books.concerns_of_hit hit)
    exact hit

private theorem getLast?_of_superseded {one : Scheduled κ β} {serial : Nat}
    (member : (one, Fate.superseded serial) ∈ (books window calls).settled) :
    ((scheduled (calls.take serial)).filter fun other => other.key = one.key).getLast? =
      some one := by
  obtain ⟨prior, call, later, rfl, place, fated, hit⟩ := exists_of_mem_settled member
  obtain rfl : serial = prior.length := place
  rw [List.take_left]
  cases call with
  | schedule key payload now =>
    have own : key = one.key := Call.key_of_concerns rfl (Books.concerns_of_hit hit)
    rw [own, Books.hitOf_schedule] at hit
    exact getLast?_of window prior ((books_ordered window prior).getLast?_of_fresh hit)
  | _ => cases fated

private theorem returnedAt_eq (prior : List (Call κ β)) (call : Call κ β) (later : List (Call κ β))
    (key : κ) :
    ((books window (prior ++ call :: later)).returnedAt prior.length).filter
        (fun one => one.key = key) =
      if call.collects then (books window prior).hitOf window call key else [] := by
  have same : ∀ entry ∈ (books window (prior ++ call :: later)).settled,
      decide (entry.2 = .returned prior.length) =
        (entry.2.isReturned && decide (entry.2.serial = prior.length)) := by
    rintro ⟨one, fate⟩ _
    rw [Bool.eq_iff_iff, Bool.and_eq_true, decide_eq_true_iff, decide_eq_true_iff]
    cases fate <;> simp [Fate.isReturned, Fate.serial]
  rw [← Books.returned_settledBy window prior.length, ← settled_at window prior call later,
    List.filter_filter, Books.returnedAt, List.filter_congr same]

private theorem collected_of_told {serial : Nat} {call : Call κ β} {reply : Reply κ β}
    (found : (told (ofWindow window) calls)[serial]? = some (call, reply)) (key : κ) :
    reply.collected.filter (fun entry => entry.1 = key) =
      (((books window calls).returnedAt serial).filter fun one => one.key = key).map
        Scheduled.entry := by
  obtain ⟨prior, later, rfl, rfl, rfl⟩ := getElem?_told.mp found
  rw [(books_agree window prior).collected (books_ordered window prior), returnedAt_eq]
  split <;> rfl

private theorem collected_of_run (window : Nat) (calls : List (Call κ β)) (key : κ) :
    ((told (ofWindow window) calls).flatMap (·.2.collected)).filter (fun entry => entry.1 = key) =
      ((books window calls).returned.filter fun one => one.key = key).map Scheduled.entry := by
  induction calls using List.reverseRecOn with
  | nil => rfl
  | append_singleton calls call ih =>
    have last := (books_agree window calls).collected (books_ordered window calls) call key
    rw [told_concat, List.flatMap_append, List.flatMap_singleton, List.filter_append, ih, last,
      books_concat, Books.returned_record, List.map_append]
    split <;> rfl

/-- Under every key the books hold what the queue holds. -/
theorem under_entries (window : Nat) (calls : List (Call κ β)) (key : κ) :
    under key (after (ofWindow window) calls).entries =
      ((books window calls).of key).map fun one => (one.key, one.wait window) := by
  rw [← entries_only, books_agree window calls key, entries_ofKey, List.map_map]
  exact List.map_congr_left fun one member => by rw [(Books.mem_of.mp member).2]; rfl

private theorem size_eq (window : Nat) (calls : List (Call κ β)) :
    (after (ofWindow window) calls).size = (books window calls).waiting.length := by
  -- The entries agree under each key, which fixes them up to the order of the keys.
  have keys : ((after (ofWindow window) calls).entries.map Prod.fst).Perm
      ((books window calls).waiting.map Scheduled.key) := by
    rw [List.perm_iff_count]
    intro key
    have same := congrArg List.length (under_entries window calls key)
    rw [under, Books.of, List.length_map, ← List.countP_eq_length_filter,
      ← List.countP_eq_length_filter] at same
    simpa only [List.count, List.countP_map, Function.comp_def, beq_eq_decide] using same
  simpa only [size, List.length_map] using keys.length_eq

/-- Whatever calls are made, under whatever keys and with whatever times, every payload that was
scheduled is in the end superseded by the next one of its key, returned once in its turn, discarded,
or still waiting; and it is only one of these. -/
theorem every_payload_has_one_fate (window : Nat) (calls : List (Call κ β)) :
    (books window calls).Accounts window calls where
  complete := books_complete window calls
  distinct := scheduled_ordered calls
  cause _ _ member := cause_of_settled member
  superseded _ _ _ _ _ found := superseded_iff found
  next _ _ member := getLast?_of_superseded member
  returned _ _ _ found := collected_of_told found
  order key := ⟨collected_of_run window calls key,
    (List.sublist_append_left _ _).trans (returned_before_waiting window calls key)⟩
  waiting := under_entries window calls
  size := size_eq window calls

end Sketchbook.QuietQueue
