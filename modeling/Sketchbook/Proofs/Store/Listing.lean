import Sketchbook.Proofs.Document.Requests

/-!
What a directory of records lists after changes. It holds what records in memory hold, and it lists each
key that has a text once, except for the empty key: the file for that has a name without an ending
(`directory_lists_all_but_empty_key`).
-/
namespace Sketchbook

/-- A change of a store of records. -/
inductive RecordChange where
  | put (key text : String)
  | delete (key : String)

namespace RecordChange

/-- The key whose text is changed. -/
def key : RecordChange → String
  | .put key _ | .delete key => key

section Perform

variable {σ : Type} [Records σ]

/-- Makes a change. -/
def perform (s : σ) : RecordChange → Except StoreError σ
  | .put key text => Records.put s key text
  | .delete key => Records.delete s key

/-- The store after changes that are made one after the other. One that fails leaves it as it was. -/
def after (s : σ) : List RecordChange → σ
  | [] => s
  | c :: rest =>
    match perform s c with
    | .ok changed => after changed rest
    | .error _ => after s rest

/-- A store tells of some keys what it holds: it lists each of them once if it has a text and does not
list it otherwise, and to have a text means that it can be read. -/
structure Lists (s : σ) (among : String → Prop) : Prop where
  listed : ∃ keys, Records.keys s = .ok keys ∧ keys.Nodup ∧
    ∀ key, among key → (key ∈ keys ↔ Records.contains s key = .ok true)
  held : ∀ key, among key →
    (Records.contains s key = .ok true ↔ ∃ text, Records.get s key = .ok (some text))

end Perform

open DirectoryRecords (fileName Fits)

/-- The name of the file for a key is one that a disk allows. -/
def IsShort (key : String) : Prop := (fileName key).utf8ByteSize ≤ Disk.nameLimit

instance (key : String) : Decidable (IsShort key) := inferInstanceAs (Decidable (_ ≤ _))

/-- A directory holds the same records as a memory that is on. -/
private structure HoldsSame (files : DirectoryRecords) (memory : MemoryRecords) (origin : Location) :
    Prop where
  mirrors : files.Mirrors origin memory.entries
  available : memory.available = true
  room : ∀ key, IsShort key → Fits files.base key

namespace HoldsSame

variable {files : DirectoryRecords} {memory : MemoryRecords} {origin : Location} {key : String}

private theorem of_fresh (fresh : files.Fresh) (available : memory.available = true)
    (blank : memory.entries = ∅) : ∃ origin, HoldsSame files memory origin := by
  obtain ⟨origin, mirrors⟩ := fresh.mirrors
  refine ⟨origin, blank ▸ mirrors, available, ?_⟩
  intro key short
  exact ⟨short, fresh.room _ short⟩

/-- A change whose file has a short name is made in both stores. -/
private theorem perform (same : HoldsSame files memory origin) {c : RecordChange}
    (short : IsShort c.key) :
    ∃ files' memory', RecordChange.perform files c = .ok files' ∧
      RecordChange.perform memory c = .ok memory' ∧ HoldsSame files' memory' origin := by
  have fits := same.room c.key short
  cases c with
  | put key text =>
    obtain ⟨files', put, base, mirrors⟩ := same.mirrors.put fits text
    have written : Records.put files key text = .ok files' := put
    exact ⟨files', _, written, MemoryRecords.whenAvailable_of_available same.available _, mirrors,
      same.available, base ▸ same.room⟩
  | delete key =>
    obtain ⟨files', delete, base, mirrors⟩ := same.mirrors.delete fits
    have removed : Records.delete files key = .ok files' := delete
    exact ⟨files', _, removed, MemoryRecords.whenAvailable_of_available same.available _, mirrors,
      same.available, base ▸ same.room⟩

/-- What one change keeps, all changes keep. -/
private theorem after (same : HoldsSame files memory origin) {changes : List RecordChange}
    (short : ∀ c ∈ changes, IsShort c.key) :
    HoldsSame (RecordChange.after files changes) (RecordChange.after memory changes) origin := by
  induction changes generalizing files memory with
  | nil => exact same
  | cons c rest ih =>
    obtain ⟨files', memory', file, entry, again⟩ := same.perform (short c List.mem_cons_self)
    rw [RecordChange.after, file, RecordChange.after, entry]
    exact ih again fun later member => short later (List.mem_cons_of_mem _ member)

private theorem contains_memory (same : HoldsSame files memory origin) (key : String) :
    Records.contains memory key = .ok (memory.entries.contains key) :=
  MemoryRecords.whenAvailable_of_available same.available _

private theorem get_memory (same : HoldsSame files memory origin) (key : String) :
    Records.get memory key = .ok (memory.entries.get? key) :=
  MemoryRecords.whenAvailable_of_available same.available _

/-- Both stores answer alike for a key. -/
private theorem answers (same : HoldsSame files memory origin) (short : IsShort key) :
    Records.get files key = Records.get memory key ∧
      Records.contains files key = Records.contains memory key := by
  rw [same.get_memory, same.contains_memory]
  have fits := same.room key short
  exact ⟨same.mirrors.get fits, congrArg Except.ok (same.mirrors.contains fits)⟩

private theorem held_memory (same : HoldsSame files memory origin) (key : String) :
    Records.contains memory key = .ok true ↔ ∃ text, Records.get memory key = .ok (some text) := by
  rw [same.contains_memory, same.get_memory, SortedMap.contains]
  cases memory.entries.get? key <;> simp

private theorem lists_memory (same : HoldsSame files memory origin) :
    Lists memory fun _ => True := by
  refine ⟨⟨_, MemoryRecords.whenAvailable_of_available same.available _,
    memory.entries.keys_nodup, ?_⟩, fun key _ => same.held_memory key⟩
  intro key _
  rw [same.contains_memory, SortedMap.mem_keys, SortedMap.contains, Except.ok.injEq]

end HoldsSame

end RecordChange

namespace DirectoryRecords

open RecordChange

variable {s : DirectoryRecords} {m : MemoryRecords} {changes : List RecordChange}

/-- A directory that nobody else uses holds after changes what a memory holds, and it lists the same keys
but for the empty one, which it never lists. -/
theorem directory_lists_all_but_empty_key (fresh : s.Fresh) (available : m.available = true)
    (blank : m.entries = ∅) (short : ∀ c ∈ changes, IsShort c.key) :
    Lists (after m changes) (fun _ => True) ∧
      (∀ key, IsShort key →
        Records.get (after s changes) key = Records.get (after m changes) key ∧
        Records.contains (after s changes) key = Records.contains (after m changes) key) ∧
      Lists (after s changes) (fun key => IsShort key ∧ key ≠ "") ∧
      ∀ keys, Records.keys (after s changes) = .ok keys → "" ∉ keys := by
  obtain ⟨origin, start⟩ := HoldsSame.of_fresh fresh available blank
  have same := start.after short
  obtain ⟨keys, told, distinct, member⟩ := same.mirrors.keys
  refine ⟨same.lists_memory, fun key => same.answers, ⟨⟨keys, told, distinct, ?_⟩, ?_⟩, ?_⟩
  · rintro key ⟨fits, notEmpty⟩
    rw [member, (same.answers fits).2, same.contains_memory, SortedMap.contains, Except.ok.injEq]
    exact and_iff_right notEmpty
  · rintro key ⟨fits, _⟩
    rw [(same.answers fits).1, (same.answers fits).2]
    exact same.held_memory key
  · intro others again inside
    obtain rfl := Except.ok.inj (told.symm.trans again)
    exact ((member "").mp inside).1 rfl

/-- Changes of keys that are no names of files. -/
def oddChanges : List RecordChange :=
  [.put "" "1", .put "a/b" "2", .put ".." "3", .put "é%" "4", .delete "a/b", .delete "."]

theorem oddChanges_listed :
    Library.emptyDesk.Fresh ∧ (∀ c ∈ oddChanges, IsShort c.key) ∧
      Lists (after Library.emptyDesk oddChanges) (fun key => IsShort key ∧ key ≠ "") ∧
      Records.get (after Library.emptyDesk oddChanges) "é%" = .ok (some "4") := by
  have short : ∀ c ∈ oddChanges, IsShort c.key := by decide
  obtain ⟨_, same, lists, _⟩ := directory_lists_all_but_empty_key (m := {}) Library.fresh_emptyDesk
    rfl rfl short
  refine ⟨Library.fresh_emptyDesk, short, lists, ?_⟩
  rw [(same "é%" (by decide)).1]
  rfl

/-- A text under the empty key can be read, but the key is not listed. -/
theorem empty_key_is_not_listed :
    Library.emptyDesk.Fresh ∧ IsShort "" ∧
      Records.contains (after Library.emptyDesk [.put "" "x"]) "" = .ok true ∧
      Records.get (after Library.emptyDesk [.put "" "x"]) "" = .ok (some "x") ∧
      ¬ Lists (after Library.emptyDesk [.put "" "x"]) IsShort := by
  have short : IsShort "" := by decide
  obtain ⟨origin, start⟩ : ∃ origin, HoldsSame Library.emptyDesk {} origin :=
    HoldsSame.of_fresh Library.fresh_emptyDesk rfl rfl
  have same : HoldsSame (after Library.emptyDesk [.put "" "x"]) (after {} [.put "" "x"]) origin :=
    start.after (by simpa [RecordChange.key] using short)
  obtain ⟨get, contains⟩ := same.answers short
  have there : Records.contains (after Library.emptyDesk [.put "" "x"]) "" = .ok true := by
    rw [contains]
    rfl
  refine ⟨Library.fresh_emptyDesk, short, there, ?_, ?_⟩
  · rw [get]
    rfl
  · intro lists
    obtain ⟨keys, told, _, member⟩ := lists.listed
    obtain ⟨others, again, _, known⟩ := same.mirrors.keys
    obtain rfl := Except.ok.inj (again.symm.trans told)
    exact ((known "").mp ((member "" short).mpr there)).1 rfl

end DirectoryRecords

end Sketchbook
