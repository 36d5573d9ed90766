import Sketchbook.SortedMap
import Sketchbook.Store.Records
/-!
Records in memory, which can be switched off. While the store is off every operation fails.
-/
namespace Sketchbook

/-- Records in memory. -/
structure MemoryRecords where
  entries : SortedMap String String := ∅
  available : Bool := true
  /-- How many texts have been put. -/
  writes : Nat := 0

namespace MemoryRecords

/-- Fails while the store is off. -/
def whenAvailable {α : Type} (s : MemoryRecords) (a : α) : Except StoreError α :=
  if s.available then .ok a else .error .offline

theorem whenAvailable_of_available {α : Type} {s : MemoryRecords} (on : s.available = true) (a : α) :
    s.whenAvailable a = .ok a := if_pos on

instance : Records MemoryRecords where
  get s key := s.whenAvailable (s.entries.get? key)
  put s key text :=
    s.whenAvailable { s with entries := s.entries.insert key text, writes := s.writes + 1 }
  delete s key := s.whenAvailable { s with entries := s.entries.erase key }
  keys s := s.whenAvailable s.entries.keys
  contains s key := s.whenAvailable (s.entries.contains key)

/-- A store that is on takes every text. -/
theorem put_of_available {s : MemoryRecords} (on : s.available = true) (key text : String) :
    Records.put s key text =
      .ok { s with entries := s.entries.insert key text, writes := s.writes + 1 } :=
  if_pos on

/-- A store that is off takes none. -/
theorem put_of_offline {s : MemoryRecords} (off : s.available = false) (key text : String) :
    Records.put s key text = .error .offline :=
  if_neg (by simp [off])

end MemoryRecords

end Sketchbook
