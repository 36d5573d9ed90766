import Sketchbook.Entries
/-!
Finite maps whose keys ascend, so that equal maps are equal lists. Each operation is described by
what it does to the value under every key.
-/
namespace Sketchbook

/-- A finite map, kept as its entries in ascending order of their keys. -/
structure SortedMap (κ α : Type) [LT κ] where
  entries : List (κ × α)
  ascending : Entries.Ascending entries

namespace SortedMap

variable {κ α : Type} [LT κ] [DecidableLT κ] [DecidableEq κ]

def empty : SortedMap κ α := ⟨[], .nil⟩

instance : EmptyCollection (SortedMap κ α) := ⟨empty⟩

instance : Inhabited (SortedMap κ α) := ⟨empty⟩

def get? (m : SortedMap κ α) (key : κ) : Option α := Entries.get? key m.entries

def contains (m : SortedMap κ α) (key : κ) : Bool := (m.get? key).isSome

def keys (m : SortedMap κ α) : List κ := m.entries.map Prod.fst

def erase (m : SortedMap κ α) (key : κ) : SortedMap κ α :=
  ⟨Entries.erase key m.entries, m.ascending.erase key⟩

/-- The entries whose keys pass a test. -/
def filterKeys (m : SortedMap κ α) (test : κ → Bool) : SortedMap κ α :=
  ⟨m.entries.filter fun entry => test entry.1, List.Pairwise.sublist List.filter_sublist m.ascending⟩

omit [DecidableLT κ] in
@[simp] theorem get?_empty (key : κ) : (∅ : SortedMap κ α).get? key = none := rfl

omit [DecidableLT κ] in
theorem mem_keys {m : SortedMap κ α} {key : κ} : key ∈ m.keys ↔ (m.get? key).isSome = true :=
  Entries.isSome_get?.symm

omit [DecidableLT κ] [DecidableEq κ] in
theorem keys_ascending (m : SortedMap κ α) : m.keys.Pairwise (· < ·) :=
  List.pairwise_map.mpr m.ascending

omit [DecidableLT κ] in
theorem get?_erase (m : SortedMap κ α) (key other : κ) :
    (m.erase key).get? other = if other = key then none else m.get? other :=
  Entries.get?_erase key other m.entries

section Order

variable [KeyOrder κ]

/-- Puts a value under a key, in place of the one that was there. -/
def insert (m : SortedMap κ α) (key : κ) (value : α) : SortedMap κ α :=
  ⟨Entries.insert key value m.entries, m.ascending.insert key value⟩

/-- Puts the entries one after the other, so that the last value of a key stays. -/
def ofList (entries : List (κ × α)) : SortedMap κ α :=
  entries.foldl (fun m entry => m.insert entry.1 entry.2) ∅

omit [DecidableLT κ] [DecidableEq κ] in
/-- No key stands twice. -/
theorem keys_nodup (m : SortedMap κ α) : m.keys.Nodup := by
  refine m.keys_ascending.imp fun {a b} below same => ?_
  rw [same] at below
  exact KeyOrder.irrefl b below

theorem get?_insert (m : SortedMap κ α) (key other : κ) (value : α) :
    (m.insert key value).get? other = if other = key then some value else m.get? other := by
  by_cases h : other = key
  · simp [insert, get?, h]
  · simp [insert, get?, h, Entries.get?_insert_of_ne h]

/-- A map is put together again from its entries. -/
theorem ofList_entries (m : SortedMap κ α) : ofList m.entries = m := by
  have grown (entries : List (κ × α)) (start : SortedMap κ α) :
      (entries.foldl (fun m entry => m.insert entry.1 entry.2) start).entries =
        entries.foldl (fun entries entry => Entries.insert entry.1 entry.2 entries) start.entries := by
    induction entries generalizing start with
    | nil => rfl
    | cons entry rest ih => exact ih _
  have same : (ofList m.entries).entries = m.entries :=
    (grown m.entries ∅).trans (Entries.foldl_insert_of_ascending [] m.ascending)
  cases made : ofList m.entries
  cases m
  rw [made] at same
  exact (SortedMap.mk.injEq ..).mpr same

/-- Maps with equal values under every key are equal. -/
theorem ext_get? {left right : SortedMap κ α}
    (same : ∀ key, left.get? key = right.get? key) : left = right := by
  cases left; cases right
  exact (SortedMap.mk.injEq ..).mpr (Entries.Ascending.ext ‹_› ‹_› same)

/-- A value that stands under its key already is put there without effect. -/
theorem insert_of_get? {m : SortedMap κ α} {key : κ} {value : α} (held : m.get? key = some value) :
    m.insert key value = m := by
  refine ext_get? fun other => ?_
  rw [get?_insert]
  by_cases same : other = key
  · rw [if_pos same, same, held]
  · exact if_neg same

end Order

end SortedMap

end Sketchbook
