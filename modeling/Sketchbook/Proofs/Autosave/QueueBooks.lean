import Sketchbook.Proofs.Autosave.QueueCalls

/-!
Books on the payloads of a queue, as an account of its calls alone. A payload that is scheduled
waits until a call settles it: it is superseded, returned or discarded. The books know neither the
queue nor its replies. `agrees_record` is the simulation between the two, key by key, and
`every_payload_has_one_fate` says that the books of any run are right.
-/
namespace Sketchbook.QuietQueue

/-- A payload that was scheduled, with the place of its call in the run. -/
structure Scheduled (κ β : Type) where
  serial : Nat
  key : κ
  payload : β
  time : Nat
  deriving DecidableEq

/-- What became of a payload, and by which call of the run. -/
inductive Fate where
  | superseded (serial : Nat)
  | returned (serial : Nat)
  | discarded (serial : Nat)
  deriving DecidableEq

/-- Where the payloads of a run have gone. -/
structure Books (κ β : Type) where
  /-- Those that wait, in the order in which they were scheduled. -/
  waiting : List (Scheduled κ β) := []
  /-- All others with their fates, in the order in which they were settled. -/
  settled : List (Scheduled κ β × Fate) := []

variable {κ β : Type}

/-- How a payload stands in a queue. -/
def Scheduled.wait (window : Nat) (one : Scheduled κ β) : Waiting β :=
  ⟨one.time + window, one.payload⟩

/-- What a collection returns for a payload. -/
def Scheduled.entry (one : Scheduled κ β) : κ × β := (one.key, one.payload)

def Fate.serial : Fate → Nat
  | .superseded serial | .returned serial | .discarded serial => serial

/-- The payload that a call schedules. -/
def Call.scheduled? (serial : Nat) : Call κ β → Option (Scheduled κ β)
  | .schedule key payload now => some ⟨serial, key, payload, now⟩
  | _ => none

/-- The fate that a call brings to payloads. -/
def Call.fate? (serial : Nat) : Call κ β → Option Fate
  | .schedule _ _ _ => some (.superseded serial)
  | .takeDue _ | .takeNow _ => some (.returned serial)
  | .cancel _ | .clear => some (.discarded serial)
  | .isPending _ => none

/-- Whether a call returns payloads. -/
def Call.collects : Call κ β → Bool
  | .takeDue _ | .takeNow _ => true
  | _ => false

/-- The payloads that calls schedule, in order. -/
def scheduled (calls : List (Call κ β)) : List (Scheduled κ β) :=
  calls.zipIdx.filterMap fun entry => entry.1.scheduled? entry.2

namespace Books

variable [DecidableEq κ]

/-- Those that wait under a key. -/
def of (b : Books κ β) (key : κ) : List (Scheduled κ β) :=
  b.waiting.filter fun one => one.key = key

/-- Whether a payload can no longer be superseded: its window has passed, or another payload of its
key, which found it so, waits behind it. -/
def ripe (window now : Nat) (b : Books κ β) (one : Scheduled κ β) : Bool :=
  one.time + window ≤ now ∨ ∃ other ∈ b.waiting, other.key = one.key ∧ one.serial < other.serial

/-- Whether a call on the key of a payload, or on all keys, settles it. -/
def settles (window : Nat) (b : Books κ β) (call : Call κ β) (one : Scheduled κ β) : Bool :=
  match call with
  | .schedule _ _ now => !b.ripe window now one
  | .takeDue now => b.ripe window now one
  | .cancel _ | .clear | .takeNow _ => true
  | .isPending _ => false

/-- Whether a call settles a payload that waits. -/
def hits (window : Nat) (b : Books κ β) (call : Call κ β) (one : Scheduled κ β) : Bool :=
  call.concerns one.key && b.settles window call one

/-- Those that a call settles, with their fate. -/
def settledBy (window serial : Nat) (b : Books κ β) (call : Call κ β) :
    List (Scheduled κ β × Fate) :=
  (call.fate? serial).toList.flatMap fun fate =>
    (b.waiting.filter fun one => b.hits window call one).map (·, fate)

/-- Enters a call. -/
def record (window serial : Nat) (b : Books κ β) (call : Call κ β) : Books κ β where
  waiting :=
    (b.waiting.filter fun one => !b.hits window call one) ++ (call.scheduled? serial).toList
  settled := b.settled ++ b.settledBy window serial call

/-! ### Who waits under a key -/

theorem mem_of {b : Books κ β} {key : κ} {one : Scheduled κ β} :
    one ∈ b.of key ↔ one ∈ b.waiting ∧ one.key = key := by
  simp [of]

/-- The serials of those that wait ascend. -/
def Ordered (b : Books κ β) : Prop :=
  b.waiting.Pairwise fun earlier later => earlier.serial < later.serial

/-- Of those that wait under a key, all but the last are ripe; the last is when its window has
passed. -/
theorem Ordered.ripe_split {b : Books κ β} (ordered : b.Ordered) (window now : Nat) {key : κ}
    {before : List (Scheduled κ β)} {last : Scheduled κ β} (shape : b.of key = before ++ [last]) :
    (∀ one ∈ before, b.ripe window now one = true) ∧
      b.ripe window now last = decide (last.time + window ≤ now) := by
  have mem_iff (one : Scheduled κ β) :
      one ∈ before ∨ one = last ↔ one ∈ b.waiting ∧ one.key = key := by
    rw [← mem_of, shape, List.mem_append, List.mem_singleton]
  obtain ⟨lastWaits, lastKey⟩ := (mem_iff last).mp (Or.inr rfl)
  have order : ∀ one ∈ before, one.serial < last.serial := by
    have line : (b.of key).Pairwise fun earlier later => earlier.serial < later.serial :=
      List.Pairwise.filter _ ordered
    rw [shape, List.pairwise_append] at line
    exact fun one member => line.2.2 one member last (List.mem_singleton_self last)
  constructor
  · intro one member
    obtain ⟨_, oneKey⟩ := (mem_iff one).mp (Or.inl member)
    have behind : ∃ other ∈ b.waiting, other.key = one.key ∧ one.serial < other.serial :=
      ⟨last, lastWaits, lastKey.trans oneKey.symm, order one member⟩
    simp only [ripe, behind, or_true, decide_true]
  · have alone : ¬ ∃ other ∈ b.waiting, other.key = last.key ∧ last.serial < other.serial := by
      rintro ⟨other, otherWaits, otherKey, later⟩
      rcases (mem_iff other).mpr ⟨otherWaits, otherKey.trans lastKey⟩ with earlier | rfl
      · exact Nat.lt_asymm later (order other earlier)
      · exact Nat.lt_irrefl _ later
    simp only [ripe, alone, or_false]

/-- Those of a key that are ripe. -/
def ripeOf (window now : Nat) (b : Books κ β) (key : κ) : List (Scheduled κ β) :=
  (b.of key).filter fun one => b.ripe window now one

/-- Those of a key that are not: the last one, or none. -/
def freshOf (window now : Nat) (b : Books κ β) (key : κ) : List (Scheduled κ β) :=
  (b.of key).filter fun one => !b.ripe window now one

/-- Under a key the ripe ones stand before the others, and a queue tells them apart as the books
do. -/
theorem Ordered.parts {b : Books κ β} (ordered : b.Ordered) (window now : Nat) (key : κ) :
    b.ripeOf window now key ++ b.freshOf window now key = b.of key ∧
      (b.ripeOf window now key).map (Scheduled.wait window) =
        dueOf now ((b.of key).map (Scheduled.wait window)) ∧
      (b.freshOf window now key).map (Scheduled.wait window) =
        leftOf now ((b.of key).map (Scheduled.wait window)) := by
  rcases List.eq_nil_or_concat' (b.of key) with nothing | ⟨before, last, parts⟩
  · simp [ripeOf, freshOf, nothing, dueOf, leftOf]
  · obtain ⟨front, back⟩ := ordered.ripe_split window now parts
    have ripeFront : before.filter (fun one => b.ripe window now one) = before :=
      List.filter_eq_self.mpr front
    have freshFront : before.filter (fun one => !b.ripe window now one) = [] :=
      List.filter_eq_nil_iff.mpr fun one member => by simp [front one member]
    rw [ripeOf, freshOf, parts, List.filter_append, List.filter_append, ripeFront, freshFront]
    by_cases due : last.time + window ≤ now <;>
      simp [back, due, dueOf, leftOf, Scheduled.wait]

/-- Only the last payload of a key can be fresh. -/
theorem Ordered.getLast?_of_fresh {b : Books κ β} (ordered : b.Ordered) {window now : Nat} {key : κ}
    {one : Scheduled κ β} (fresh : one ∈ b.freshOf window now key) :
    (b.of key).getLast? = some one := by
  obtain ⟨member, unripe⟩ := List.mem_filter.mp fresh
  rcases List.eq_nil_or_concat' (b.of key) with nothing | ⟨before, last, parts⟩
  · rw [nothing] at member
    cases member
  · obtain ⟨front, _⟩ := ordered.ripe_split window now parts
    rw [parts, List.mem_append, List.mem_singleton] at member
    rcases member with early | rfl
    · simp [front one early] at unripe
    · simp [parts]

/-! ### What a call does under a key -/

/-- Those of a key that a call settles. -/
def hitOf (window : Nat) (b : Books κ β) (call : Call κ β) (key : κ) : List (Scheduled κ β) :=
  (b.of key).filter fun one => b.hits window call one

/-- Those of a key that go on waiting. -/
def restOf (window : Nat) (b : Books κ β) (call : Call κ β) (key : κ) : List (Scheduled κ β) :=
  (b.of key).filter fun one => !b.hits window call one

theorem of_record (window serial : Nat) (b : Books κ β) (call : Call κ β) (key : κ) :
    (b.record window serial call).of key =
      b.restOf window call key ++
        (call.scheduled? serial).toList.filter fun one => one.key = key := by
  simp only [of, record, restOf, List.filter_append, List.filter_filter, Bool.and_comm]

/-- A call on another key leaves those of this one. -/
theorem hitOf_of_other (window : Nat) (b : Books κ β) {call : Call κ β} {key : κ}
    (elsewhere : call.concerns key = false) :
    b.hitOf window call key = [] ∧ b.restOf window call key = b.of key := by
  have missed : ∀ one ∈ b.of key, b.hits window call one = false := by
    intro one member
    rw [hits, (mem_of.mp member).2, elsewhere, Bool.false_and]
  exact ⟨List.filter_eq_nil_iff.mpr fun one member => by simp [missed one member],
    List.filter_eq_self.mpr fun one member => by simp [missed one member]⟩

/-- A call on a key settles those of them that it would settle at all. -/
theorem hitOf_of_own (window : Nat) (b : Books κ β) {call : Call κ β} {key : κ}
    (concerned : call.concerns key = true) :
    b.hitOf window call key = (b.of key).filter (fun one => b.settles window call one) ∧
      b.restOf window call key = (b.of key).filter (fun one => !b.settles window call one) := by
  have same : ∀ one ∈ b.of key, b.hits window call one = b.settles window call one := by
    intro one member
    rw [hits, (mem_of.mp member).2, concerned, Bool.true_and]
  exact ⟨List.filter_congr same, List.filter_congr fun one member => by rw [same one member]⟩

/-- A payload that is scheduled supersedes the one of its key that is not ripe. -/
theorem hitOf_schedule (window : Nat) (b : Books κ β) (key : κ) (payload : β) (now : Nat) :
    b.hitOf window (.schedule key payload now) key = b.freshOf window now key :=
  (b.hitOf_of_own window (by simp [Call.concerns, Call.key?])).1

theorem concerns_of_hit {window : Nat} {b : Books κ β} {call : Call κ β} {key : κ}
    {one : Scheduled κ β} (hit : one ∈ b.hitOf window call key) : call.concerns one.key = true := by
  have both := (List.mem_filter.mp hit).2
  rw [hits, Bool.and_eq_true] at both
  exact both.1

/-- A call that schedules nothing under a key settles those of the key that stand before the ones
that it leaves. -/
theorem Ordered.hit_before_rest {b : Books κ β} (ordered : b.Ordered) (window serial : Nat)
    {call : Call κ β} {key : κ}
    (quiet : (call.scheduled? serial).toList.filter (fun one => one.key = key) = []) :
    b.hitOf window call key ++ b.restOf window call key = b.of key := by
  cases concerned : call.concerns key with
  | false =>
    obtain ⟨nothing, all⟩ := b.hitOf_of_other window concerned
    rw [nothing, all, List.nil_append]
  | true =>
    obtain ⟨hit, rest⟩ := b.hitOf_of_own window concerned
    rw [hit, rest]
    cases call with
    | schedule other payload now =>
      obtain rfl := Call.key_of_concerns rfl concerned
      simp [Call.scheduled?] at quiet
    | takeDue now => exact (ordered.parts window now key).1
    | cancel other => simp [settles]
    | clear => simp [settles]
    | takeNow other => simp [settles]
    | isPending other => simp [settles]

theorem mem_settledBy {window serial : Nat} {b : Books κ β} {call : Call κ β} {one : Scheduled κ β}
    {fate : Fate} :
    (one, fate) ∈ b.settledBy window serial call ↔
      call.fate? serial = some fate ∧ one ∈ b.hitOf window call one.key := by
  rw [hitOf, List.mem_filter, mem_of, settledBy]
  cases fated : call.fate? serial with
  | none => simp
  | some other =>
    simp only [Option.toList_some, List.flatMap_singleton, List.mem_map, List.mem_filter,
      Prod.mk.injEq, Option.some.injEq]
    constructor
    · rintro ⟨same, ⟨waits, hit⟩, rfl, rfl⟩
      exact ⟨rfl, ⟨waits, trivial⟩, hit⟩
    · rintro ⟨same, ⟨waits, _⟩, hit⟩
      exact ⟨one, ⟨waits, hit⟩, rfl, same⟩

/-- A call settles just those that it takes from the waiting ones. -/
theorem map_settledBy (window serial : Nat) (b : Books κ β) (call : Call κ β) :
    (b.settledBy window serial call).map Prod.fst =
      b.waiting.filter fun one => b.hits window call one := by
  cases call with
  | isPending key =>
    refine (List.filter_eq_nil_iff.mpr fun one _ => ?_).symm
    simp [hits, settles]
  | _ => simp [settledBy, Call.fate?, Function.comp_def]

/-! ### The books and the queue -/

omit [DecidableEq κ] in
private theorem map_entry {key : κ} {ones : List (Scheduled κ β)}
    (own : ∀ one ∈ ones, one.key = key) (window : Nat) :
    ones.map Scheduled.entry =
      (ones.map (Scheduled.wait window)).map fun wait => (key, wait.payload) := by
  rw [List.map_map]
  exact List.map_congr_left fun one member => by rw [Scheduled.entry, own one member]; rfl

/-- On a queue that holds what waits under a key, a call on the key leaves what goes on waiting and,
if it is a collection, returns what it settles. -/
theorem Ordered.perform_ofKey {b : Books κ β} (ordered : b.Ordered) (window serial : Nat) {key : κ}
    {call : Call κ β} (concerned : call.concerns key = true) :
    ((ofKey window key ((b.of key).map (Scheduled.wait window))).perform call).2 =
        ofKey window key (((b.record window serial call).of key).map (Scheduled.wait window)) ∧
      ((ofKey window key ((b.of key).map (Scheduled.wait window))).perform call).1.collected =
        if call.collects then (b.hitOf window call key).map Scheduled.entry else [] := by
  obtain ⟨hit, rest⟩ := b.hitOf_of_own window concerned
  have named : ∀ one ∈ b.hitOf window call key, one.key = key := fun one member =>
    (mem_of.mp (List.mem_of_mem_filter member)).2
  rw [of_record, rest, map_entry named window, hit]
  cases call with
  | schedule other payload now =>
    obtain rfl := Call.key_of_concerns rfl concerned
    obtain ⟨_, due, _⟩ := ordered.parts window now other
    rw [ripeOf] at due
    simp [perform, schedule_ofKey_dueOf, settles, Call.scheduled?, Call.collects, due,
      Scheduled.wait]
  | cancel other =>
    obtain rfl := Call.key_of_concerns rfl concerned
    simp [perform, cancel_ofKey, settles, Call.scheduled?, Call.collects]
  | clear => simp [perform, settles, Call.scheduled?, Call.collects]
  | takeDue now =>
    obtain ⟨_, due, left⟩ := ordered.parts window now key
    rw [ripeOf] at due
    rw [freshOf] at left
    simp [perform, takeDue_ofKey, settles, Call.scheduled?, Call.collects, due, left]
  | takeNow other =>
    obtain rfl := Call.key_of_concerns rfl concerned
    simp [perform, takeNow_ofKey, settles, Call.scheduled?, Call.collects]
  | isPending other => simp [perform, settles, Call.scheduled?, Call.collects]

/-- What waits in the books is what waits in the queue, under every key and in the same order. -/
def Agrees (window : Nat) (b : Books κ β) (q : QuietQueue κ β) : Prop :=
  ∀ key, q.only key = ofKey window key ((b.of key).map (Scheduled.wait window))

/-- A call keeps the books and the queue in agreement. -/
theorem Agrees.record {window : Nat} {b : Books κ β} {q : QuietQueue κ β}
    (agrees : b.Agrees window q) (ordered : b.Ordered) (serial : Nat) (call : Call κ β) :
    (b.record window serial call).Agrees window (q.perform call).2 := by
  intro key
  cases concerned : call.concerns key with
  | false =>
    -- A call on another key neither takes from those of this one nor adds to them.
    obtain ⟨_, all⟩ := b.hitOf_of_other window concerned
    have absent : (call.scheduled? serial).toList.filter (fun one => one.key = key) = [] := by
      cases call with
      | schedule other payload now =>
        have different := Call.ne_of_elsewhere rfl concerned
        simp [Call.scheduled?, different]
      | _ => rfl
    rw [of_record, all, absent, List.append_nil, only_perform_of_other q concerned, agrees key]
  | true =>
    have alone := congrArg Prod.snd (perform_only q concerned)
    rw [agrees key] at alone
    exact alone.symm.trans (ordered.perform_ofKey window serial concerned).1

/-- A call returns those that it settles in the books, if it is a collection. -/
theorem Agrees.collected {window : Nat} {b : Books κ β} {q : QuietQueue κ β}
    (agrees : b.Agrees window q) (ordered : b.Ordered) (call : Call κ β) (key : κ) :
    (q.perform call).1.collected.filter (fun entry => entry.1 = key) =
      if call.collects then (b.hitOf window call key).map Scheduled.entry else [] := by
  cases concerned : call.concerns key with
  | false =>
    rw [collected_of_other q concerned, (b.hitOf_of_other window concerned).1, List.map_nil,
      ite_self]
  | true =>
    have alone := congrArg (fun answer => answer.1.collected) (perform_only q concerned)
    rw [agrees key] at alone
    exact alone.symm.trans (ordered.perform_ofKey window 0 concerned).2

/-- A payload is superseded if and only if the call that schedules the next one of its key says so.
-/
theorem Agrees.superseded {window : Nat} {b : Books κ β} {q : QuietQueue κ β}
    (agrees : b.Agrees window q) (ordered : b.Ordered) (key : κ) (payload : β) (now : Nat) :
    (q.perform (.schedule key payload now)).1.superseded = true ↔
      ∃ one, one ∈ b.hitOf window (.schedule key payload now) key := by
  have concerned : (Call.schedule key payload now).concerns key = true := by
    simp [Call.concerns, Call.key?]
  have alone := congrArg (fun answer => answer.1.superseded) (perform_only q concerned)
  obtain ⟨_, _, left⟩ := ordered.parts window now key
  have reply : (q.perform (.schedule key payload now)).1.superseded =
      !(b.freshOf window now key).isEmpty := by
    rw [agrees key] at alone
    refine alone.symm.trans ?_
    simp only [perform, schedule_ofKey_dueOf, ← left, List.isEmpty_map]
  rw [reply, hitOf_schedule, Bool.not_eq_true', List.isEmpty_eq_false_iff_exists_mem]

end Books

/-! ### The books of a run -/

section Run

variable [DecidableEq κ]

/-- The books after calls on a queue in which nothing waited. -/
def books (window : Nat) (calls : List (Call κ β)) : Books κ β :=
  calls.zipIdx.foldl (fun b entry => b.record window entry.2 entry.1) {}

@[simp] theorem books_concat (window : Nat) (calls : List (Call κ β)) (call : Call κ β) :
    books window (calls ++ [call]) = (books window calls).record window calls.length call := by
  simp [books, List.zipIdx_append, List.foldl_append]

omit [DecidableEq κ] in
@[simp] theorem scheduled_concat (calls : List (Call κ β)) (call : Call κ β) :
    scheduled (calls ++ [call]) = scheduled calls ++ (call.scheduled? calls.length).toList := by
  cases fresh : call.scheduled? calls.length <;>
    simp [scheduled, List.zipIdx_append, List.filterMap_append, fresh]

omit [DecidableEq κ] in
theorem serial_of_scheduled? {call : Call κ β} {serial : Nat} {one : Scheduled κ β}
    (fresh : call.scheduled? serial = some one) : one.serial = serial := by
  cases call with
  | schedule key payload now =>
    obtain rfl := Option.some.inj fresh
    rfl
  | _ => cases fresh

omit [DecidableEq κ] in
theorem serial_lt_of_mem_scheduled {calls : List (Call κ β)} {one : Scheduled κ β}
    (member : one ∈ scheduled calls) : one.serial < calls.length := by
  induction calls using List.reverseRecOn with
  | nil => cases member
  | append_singleton calls call ih =>
    rw [scheduled_concat, List.mem_append, Option.mem_toList] at member
    rw [List.length_append, List.length_singleton]
    rcases member with earlier | new
    · exact Nat.lt_succ_of_lt (ih earlier)
    · rw [serial_of_scheduled? new]
      exact Nat.lt_succ_self _

omit [DecidableEq κ] in
theorem scheduled_ordered (calls : List (Call κ β)) :
    (scheduled calls).Pairwise fun earlier later => earlier.serial < later.serial := by
  induction calls using List.reverseRecOn with
  | nil => exact .nil
  | append_singleton calls call ih =>
    rw [scheduled_concat, List.pairwise_append]
    refine ⟨ih, ?_, ?_⟩
    · cases call.scheduled? calls.length with
      | none => exact .nil
      | some one => exact List.pairwise_singleton _ one
    · intro earlier before new now
      rw [serial_of_scheduled? (Option.mem_toList.mp now)]
      exact serial_lt_of_mem_scheduled before

theorem waiting_sublist (window : Nat) (calls : List (Call κ β)) :
    (books window calls).waiting.Sublist (scheduled calls) := by
  induction calls using List.reverseRecOn with
  | nil => exact .slnil
  | append_singleton calls call ih =>
    rw [books_concat, scheduled_concat]
    exact (List.filter_sublist.trans ih).append (List.Sublist.refl _)

theorem books_ordered (window : Nat) (calls : List (Call κ β)) : (books window calls).Ordered :=
  (scheduled_ordered calls).sublist (waiting_sublist window calls)

/-- The books of a run agree with the queue that it leaves. -/
theorem books_agree (window : Nat) (calls : List (Call κ β)) :
    (books window calls).Agrees window (after (ofWindow window) calls) := by
  induction calls using List.reverseRecOn with
  | nil => exact fun key => rfl
  | append_singleton calls call ih =>
    rw [books_concat, after_concat]
    exact ih.record (books_ordered window calls) calls.length call

/-- Every payload that was scheduled stands in the books once. -/
theorem books_complete (window : Nat) (calls : List (Call κ β)) :
    ((books window calls).settled.map Prod.fst ++ (books window calls).waiting).Perm
      (scheduled calls) := by
  induction calls using List.reverseRecOn with
  | nil => exact .nil
  | append_singleton calls call ih =>
    have parted := List.filter_append_perm
      (fun one => (books window calls).hits window call one) (books window calls).waiting
    have moved := (parted.append_right (call.scheduled? calls.length).toList).append_left
      ((books window calls).settled.map Prod.fst)
    have earlier := ih.append_right (call.scheduled? calls.length).toList
    rw [List.append_assoc] at earlier
    rw [books_concat, scheduled_concat, Books.record, List.map_append, Books.map_settledBy]
    simpa only [List.append_assoc] using moved.trans earlier

/-! ### What each call of a run settles -/

omit [DecidableEq κ] in
theorem serial_of_fate? {call : Call κ β} {serial : Nat} {fate : Fate}
    (fated : call.fate? serial = some fate) : fate.serial = serial := by
  cases call with
  | isPending key => cases fated
  | _ =>
    obtain rfl := Option.some.inj fated
    rfl

theorem serial_lt_of_mem_settled {window : Nat} {calls : List (Call κ β)}
    {entry : Scheduled κ β × Fate} (member : entry ∈ (books window calls).settled) :
    entry.2.serial < calls.length := by
  induction calls using List.reverseRecOn with
  | nil => cases member
  | append_singleton calls call ih =>
    rw [books_concat, Books.record, List.mem_append] at member
    rw [List.length_append, List.length_singleton]
    rcases member with earlier | new
    · exact Nat.lt_succ_of_lt (ih earlier)
    · rw [serial_of_fate? (Books.mem_settledBy.mp new).1]
      exact Nat.lt_succ_self _

/-- What calls settle stays settled; all that is added later is of later calls. -/
theorem settled_append (window : Nat) (first second : List (Call κ β)) :
    ∃ more, (books window (first ++ second)).settled = (books window first).settled ++ more ∧
      ∀ entry ∈ more, first.length ≤ entry.2.serial := by
  induction second using List.reverseRecOn with
  | nil => exact ⟨[], by simp, by simp⟩
  | append_singleton second call ih =>
    obtain ⟨more, shape, late⟩ := ih
    rw [← List.append_assoc, books_concat, Books.record, shape, List.append_assoc]
    refine ⟨_, rfl, fun entry member => ?_⟩
    rcases List.mem_append.mp member with earlier | new
    · exact late entry earlier
    · rw [serial_of_fate? (Books.mem_settledBy.mp new).1, List.length_append]
      exact Nat.le_add_right _ _

/-- What the books say of a call's own place is what it settled when it was made. -/
theorem settled_at (window : Nat) (prior : List (Call κ β)) (call : Call κ β)
    (later : List (Call κ β)) :
    (books window (prior ++ call :: later)).settled.filter
        (fun entry => entry.2.serial = prior.length) =
      (books window prior).settledBy window prior.length call := by
  have split : prior ++ call :: later = (prior ++ [call]) ++ later := by simp
  obtain ⟨more, shape, late⟩ := settled_append window (prior ++ [call]) later
  -- The serials tell what was settled before the call, by the call and after it.
  have before : (books window prior).settled.filter
      (fun entry => entry.2.serial = prior.length) = [] := by
    refine List.filter_eq_nil_iff.mpr fun entry member => ?_
    have earlier := serial_lt_of_mem_settled member
    simp only [decide_eq_true_eq]
    omega
  have own : ((books window prior).settledBy window prior.length call).filter
      (fun entry => entry.2.serial = prior.length) =
        (books window prior).settledBy window prior.length call := by
    refine List.filter_eq_self.mpr fun entry member => ?_
    rw [serial_of_fate? (Books.mem_settledBy.mp member).1]
    simp
  have after : more.filter (fun entry => entry.2.serial = prior.length) = [] := by
    refine List.filter_eq_nil_iff.mpr fun entry member => ?_
    have behind := late entry member
    rw [List.length_append, List.length_singleton] at behind
    simp only [decide_eq_true_eq]
    omega
  rw [split, shape, books_concat, Books.record, List.filter_append, List.filter_append, before, own,
    after, List.nil_append, List.append_nil]

/-- A payload has a fate by a call if and only if it waited when the call was made, and the call
settled it so. -/
theorem mem_settled_at {window : Nat} {prior later : List (Call κ β)} {call : Call κ β}
    {one : Scheduled κ β} {fate : Fate} (place : fate.serial = prior.length) :
    (one, fate) ∈ (books window (prior ++ call :: later)).settled ↔
      call.fate? prior.length = some fate ∧
        one ∈ (books window prior).hitOf window call one.key := by
  rw [← Books.mem_settledBy, ← settled_at window prior call later, List.mem_filter, place]
  simp

/-- Every fate comes from a call of the run. -/
theorem exists_of_mem_settled {window : Nat} {calls : List (Call κ β)} {one : Scheduled κ β}
    {fate : Fate} (member : (one, fate) ∈ (books window calls).settled) :
    ∃ prior call later, calls = prior ++ call :: later ∧ fate.serial = prior.length ∧
      call.fate? prior.length = some fate ∧
        one ∈ (books window prior).hitOf window call one.key := by
  obtain ⟨prior, call, later, rfl, place⟩ := split_of_lt_length (serial_lt_of_mem_settled member)
  exact ⟨prior, call, later, rfl, place, (mem_settled_at place).mp member⟩

end Run

end Sketchbook.QuietQueue
