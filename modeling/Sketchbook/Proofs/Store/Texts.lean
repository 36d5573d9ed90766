import Sketchbook.Proofs.Store.Footprints
import Sketchbook.Store.Memory

/-!
The texts in a store of records. A store keeps texts if what it answers is what it holds, and what
was put is what it answers next; it keeps them apart if a text that is put changes no other. Records in
memory hold their texts also while they are switched off.
-/
namespace Sketchbook

/-- A type of stores that hold the texts which they are given. -/
class KeepsTexts (σ : Type) [Records σ] where
  /-- The text that is held under a key. -/
  stored : σ → String → Option String
  stored_of_get {s : σ} {key : String} {answer : Option String}
    (got : Records.get s key = .ok answer) : stored s key = answer
  get_of_put {s changed : σ} {key text : String} (put : Records.put s key text = .ok changed) :
    Records.get changed key = .ok (some text)

export KeepsTexts (stored stored_of_get get_of_put)

/-- A type of stores in which a text that is put leaves the texts under all other keys as they were. -/
class KeepsApart (σ : Type) [Records σ] [KeepsTexts σ] : Prop where
  stored_of_put_ne {s changed : σ} {key other text : String}
    (put : Records.put s key text = .ok changed) (apart : other ≠ key) :
    stored changed other = stored s other

export KeepsApart (stored_of_put_ne)

namespace MemoryRecords

/-- A store that is on gives its answer. -/
private theorem whenAvailable_eq_ok {α : Type} {s : MemoryRecords} {a b : α}
    (given : s.whenAvailable a = .ok b) : a = b := by
  unfold whenAvailable at given
  split at given
  · exact Except.ok.inj given
  · cases given

instance : KeepsTexts MemoryRecords where
  stored s key := s.entries.get? key
  stored_of_get got := whenAvailable_eq_ok got
  get_of_put {s changed key text} put := by
    have on : s.available = true := by
      cases on : s.available with
      | true => rfl
      | false => simp [Records.put, whenAvailable, on] at put
    rw [← whenAvailable_eq_ok put]
    simp [Records.get, whenAvailable, on, SortedMap.get?_insert]

instance : KeepsApart MemoryRecords where
  stored_of_put_ne {s changed key other text} put apart := by
    rw [← whenAvailable_eq_ok put]
    exact (s.entries.get?_insert key other text).trans (if_neg apart)

end MemoryRecords

namespace DirectoryRecords

/-- The text of the file for a key. -/
def text? (s : DirectoryRecords) (key : String) : Option String :=
  (s.disk.readText (s.path key)).toOption

private theorem text?_of_get {s : DirectoryRecords} {key : String} {answer : Option String}
    (got : s.get key = .ok answer) : s.text? key = answer := by
  unfold get at got
  unfold text?
  split at got
  · next text read =>
    rw [read]
    exact Except.ok.inj got
  · next missing =>
    rw [missing]
    exact Except.ok.inj got
  · cases got

private theorem get_of_written {s changed : DirectoryRecords} {key text : String}
    (put : s.put key text = .ok changed) : changed.get key = .ok (some text) := by
  obtain ⟨_, holds⟩ := holdsText_of_put put
  exact holds.get

instance : KeepsTexts DirectoryRecords where
  stored := text?
  stored_of_get := text?_of_get
  get_of_put := get_of_written

/-- The text for a key is what is read at the place of its file. -/
private theorem text?_of_lookup {s changed : DirectoryRecords} {key : String}
    (same : changed.disk.lookup (changed.path key) = s.disk.lookup (s.path key)) :
    changed.text? key = s.text? key := by
  rw [text?, text?, readText_of_lookup same]

instance : KeepsApart DirectoryRecords where
  stored_of_put_ne {s changed key other text} put apart := by
    obtain ⟨base, only⟩ := changesOnly_of_put put
    obtain ⟨origin, stands, _⟩ := put_eq_ok.mp put
    have led := stands.located
    exact text?_of_lookup
      (lookup_of_changesOnly base only led (not_places_base led) (not_places_of_ne led apart))

end DirectoryRecords

end Sketchbook
