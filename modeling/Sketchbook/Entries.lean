/-!
Association lists whose keys ascend. Main statements: an insertion changes the value of its own key
only (`get?_insert_self`, `get?_insert_of_ne`), a removal that of its own key only (`get?_erase`),
both keep the keys ascending (`Ascending.insert`, `Ascending.erase`), and ascending lists with equal
values under every key are equal (`Ascending.ext`).
-/
namespace Sketchbook

/-- The order of keys that can be searched: of two keys that differ one is less. -/
class KeyOrder (κ : Type) [LT κ] : Prop where
  irrefl : ∀ a : κ, ¬ a < a
  trans : ∀ {a b c : κ}, a < b → b < c → a < c
  eq_of_not_lt : ∀ {a b : κ}, ¬ a < b → ¬ b < a → a = b

instance : KeyOrder String where
  irrefl := Std.Irrefl.irrefl
  trans := Trans.trans
  eq_of_not_lt := Std.Trichotomous.trichotomous _ _

instance : KeyOrder (List String) where
  irrefl := Std.Irrefl.irrefl
  trans := Trans.trans
  eq_of_not_lt := Std.Trichotomous.trichotomous _ _

namespace Entries

variable {κ α : Type} [LT κ] [DecidableLT κ] [DecidableEq κ]

/-- Each key is less than all that follow it. -/
def Ascending (entries : List (κ × α)) : Prop :=
  entries.Pairwise fun a b => a.1 < b.1

/-- The value under a key. -/
def get? (key : κ) : List (κ × α) → Option α
  | [] => none
  | (k, value) :: rest => if k = key then some value else get? key rest

/-- Puts a value under a key, in place of the one that was there. -/
def insert (key : κ) (value : α) : List (κ × α) → List (κ × α)
  | [] => [(key, value)]
  | (k, old) :: rest =>
    if key < k then (key, value) :: (k, old) :: rest
    else if k = key then (key, value) :: rest
    else (k, old) :: insert key value rest

/-- Removes the value under a key. -/
def erase (key : κ) (entries : List (κ × α)) : List (κ × α) :=
  entries.filter fun entry => entry.1 ≠ key

omit [LT κ] [DecidableLT κ] in
@[simp] theorem get?_nil (key : κ) : get? key ([] : List (κ × α)) = none := rfl

@[simp] theorem get?_insert_self (key : κ) (value : α) (entries : List (κ × α)) :
    get? key (insert key value entries) = some value := by
  induction entries with
  | nil => simp [insert, get?]
  | cons entry rest ih =>
    obtain ⟨k, old⟩ := entry
    unfold insert
    split
    · simp [get?]
    · split <;> simp_all [get?]

theorem get?_insert_of_ne {key other : κ} (h : other ≠ key) (value : α)
    (entries : List (κ × α)) : get? other (insert key value entries) = get? other entries := by
  induction entries with
  | nil => simp [insert, get?, h.symm]
  | cons entry rest ih =>
    obtain ⟨k, old⟩ := entry
    unfold insert
    split
    · simp [get?, h.symm]
    · split
      · simp_all [get?, h.symm]
      · simp [get?, ih]

omit [LT κ] [DecidableLT κ] in
theorem get?_erase (key other : κ) (entries : List (κ × α)) :
    get? other (erase key entries) = if other = key then none else get? other entries := by
  induction entries with
  | nil => simp [erase]
  | cons entry rest ih =>
    obtain ⟨k, old⟩ := entry
    by_cases hk : k = key
    · have : erase key ((k, old) :: rest) = erase key rest := by simp [erase, hk]
      rw [this, ih]
      by_cases ho : other = key
      · simp [ho]
      · have : k ≠ other := fun h => ho (h.symm.trans hk)
        simp [get?, ho, this]
    · have : erase key ((k, old) :: rest) = (k, old) :: erase key rest := by simp [erase, hk]
      rw [this]
      by_cases ho : k = other
      · subst ho
        simp [get?, hk]
      · simp [get?, ho, ih]

omit [LT κ] [DecidableLT κ] in
theorem get?_eq_none_of_not_mem {key : κ} {entries : List (κ × α)}
    (h : ∀ entry ∈ entries, entry.1 ≠ key) : get? key entries = none := by
  induction entries with
  | nil => rfl
  | cons entry rest ih =>
    have := h entry (by simp)
    simp [get?, this, ih fun e he => h e (List.mem_cons_of_mem _ he)]

omit [LT κ] [DecidableLT κ] in
theorem isSome_get? {key : κ} {entries : List (κ × α)} :
    (get? key entries).isSome = true ↔ key ∈ entries.map Prod.fst := by
  induction entries with
  | nil => simp
  | cons entry rest ih =>
    by_cases same : entry.1 = key
    · simp [get?, same]
    · have other : key ≠ entry.1 := fun h => same h.symm
      simp [get?, same, other, ih]

theorem mem_insert {key : κ} {value : α} {entry : κ × α} {entries : List (κ × α)}
    (h : entry ∈ insert key value entries) : entry = (key, value) ∨ entry ∈ entries := by
  induction entries with
  | nil => simpa [insert] using h
  | cons head rest ih =>
    obtain ⟨k, old⟩ := head
    unfold insert at h
    split at h
    · simpa using h
    · split at h
      · rcases List.mem_cons.1 h with h | h
        · exact .inl h
        · exact .inr (List.mem_cons_of_mem _ h)
      · rcases List.mem_cons.1 h with h | h
        · exact .inr (by simp [h])
        · exact (ih h).imp id (List.mem_cons_of_mem _)

omit [DecidableLT κ] in
theorem Ascending.erase {entries : List (κ × α)} (h : Ascending entries) (key : κ) :
    Ascending (erase key entries) :=
  List.Pairwise.sublist List.filter_sublist h

section Order

variable [KeyOrder κ]

theorem Ascending.insert {entries : List (κ × α)} (h : Ascending entries) (key : κ) (value : α) :
    Ascending (insert key value entries) := by
  induction entries with
  | nil => simp [Entries.insert, Ascending]
  | cons head rest ih =>
    obtain ⟨k, old⟩ := head
    obtain ⟨least, tail⟩ := List.pairwise_cons.1 h
    unfold Entries.insert
    split
    · next below =>
      refine List.pairwise_cons.2 ⟨fun entry mem => ?_, h⟩
      rcases List.mem_cons.1 mem with rfl | mem
      · exact below
      · exact KeyOrder.trans below (least entry mem)
    · next above =>
      split
      · next same =>
        subst same
        exact List.pairwise_cons.2 ⟨least, tail⟩
      · next other =>
        refine List.pairwise_cons.2 ⟨fun entry mem => ?_, ih tail⟩
        rcases mem_insert mem with rfl | mem
        · exact Classical.byContradiction fun not =>
            other (KeyOrder.eq_of_not_lt not above)
        · exact least entry mem

/-- A key that is greater than all others is put last. -/
theorem insert_of_last {before : List (κ × α)} {key : κ} (value : α)
    (last : ∀ entry ∈ before, entry.1 < key) : insert key value before = before ++ [(key, value)] := by
  induction before with
  | nil => rfl
  | cons entry rest ih =>
    have less : entry.1 < key := last entry List.mem_cons_self
    have above : ¬ key < entry.1 := fun more => KeyOrder.irrefl key (KeyOrder.trans more less)
    have apart : entry.1 ≠ key := fun same => KeyOrder.irrefl key (same ▸ less)
    rw [insert, if_neg above, if_neg apart, ih fun e mem => last e (List.mem_cons_of_mem _ mem),
      List.cons_append]

/-- Entries that ascend are put one after the other as they are. -/
theorem foldl_insert_of_ascending (before : List (κ × α)) {entries : List (κ × α)}
    (h : Ascending (before ++ entries)) :
    entries.foldl (fun entries entry => insert entry.1 entry.2 entries) before =
      before ++ entries := by
  induction entries generalizing before with
  | nil => simp
  | cons entry rest ih =>
    have less := (List.pairwise_append.1 h).2.2
    have put : insert entry.1 entry.2 before = before ++ [entry] :=
      insert_of_last entry.2 fun other mem => less other mem entry List.mem_cons_self
    have further : Ascending (before ++ [entry] ++ rest) := by simpa using h
    rw [List.foldl_cons, put, ih _ further, List.append_assoc, List.singleton_append]

/-- Ascending lists with equal values under every key are equal. -/
theorem Ascending.ext {left right : List (κ × α)} (hl : Ascending left) (hr : Ascending right)
    (same : ∀ key, get? key left = get? key right) : left = right := by
  have irrefl (k : κ) : ¬ k < k := KeyOrder.irrefl k
  induction left generalizing right with
  | nil =>
    cases right with
    | nil => rfl
    | cons head rest => simpa [get?] using same head.1
  | cons a left ih =>
    cases right with
    | nil => simpa [get?] using same a.1
    | cons b right =>
      obtain ⟨leastA, tailA⟩ := List.pairwise_cons.1 hl
      obtain ⟨leastB, tailB⟩ := List.pairwise_cons.1 hr
      have absent {k : κ} {l : List (κ × α)} (h : ∀ e ∈ l, k < e.1) : get? k l = none :=
        get?_eq_none_of_not_mem fun e he eq => irrefl k (eq ▸ h e he)
      have key : a.1 = b.1 := by
        by_cases below : a.1 < b.1
        · have : get? a.1 (b :: right) = none :=
            absent fun e he => by
              rcases List.mem_cons.1 he with rfl | he
              · exact below
              · exact KeyOrder.trans below (leastB e he)
          exact absurd (same a.1) (by rw [this]; simp [get?])
        · by_cases above : b.1 < a.1
          · have : get? b.1 (a :: left) = none :=
              absent fun e he => by
                rcases List.mem_cons.1 he with rfl | he
                · exact above
                · exact KeyOrder.trans above (leastA e he)
            exact absurd (same b.1) (by rw [this]; simp [get?])
          · exact KeyOrder.eq_of_not_lt below above
      have value : a.2 = b.2 := by simpa [get?, key] using same a.1
      have rests : left = right := by
        refine ih tailA tailB fun k => ?_
        by_cases hk : a.1 = k
        · rw [absent (by simpa [← hk] using leastA), absent (by simpa [← hk, key] using leastB)]
        · have hb : b.1 ≠ k := fun h => hk (key.trans h)
          simpa [get?, hk, hb] using same k
      exact by rw [Prod.ext key value, rests]

end Order

end Entries

end Sketchbook
