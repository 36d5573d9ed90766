import Sketchbook.Proofs.Document.Ids
import Sketchbook.Proofs.Document.RecordNames
import Sketchbook.Proofs.Store.Mirror
import Sketchbook.Store.Memory

/-!
Requests to a library, one after the other. A library in an empty directory and an empty one in memory
cannot be told apart (`files_answer_as_memory`): each request is answered alike by libraries that hold
the same records, and leaves libraries that hold the same records (`SameRecords.perform`).
-/
namespace Sketchbook.Library

/-- What can be asked of a library. -/
inductive Request where
  | get (id : DocumentId)
  | put (id : DocumentId) (content : Content)
  | putText (id : DocumentId) (text : String)
  | delete (id : DocumentId)
  | has (id : DocumentId)
  | list

/-- What is answered to a request that does not fail. -/
inductive Answer where
  | content (content : Content)
  | done
  | found (there : Bool)
  | ids (ids : List DocumentId)

/-- What the caller of a request learns. -/
structure Reply where
  answer : Except StoreError Answer
  notices : List Notice := []

section Perform

variable {σ : Type}

/-- The reply to a request that changes a library, and the library afterwards. -/
def settle (l : Library σ) (changed : Noted (Except StoreError (Library σ))) : Reply × Library σ :=
  match changed.value with
  | .ok next => (⟨.ok .done, changed.notices⟩, next)
  | .error e => (⟨.error e, changed.notices⟩, l)

variable [Records σ]

/-- Does what is asked. A request that fails leaves the library as it was. -/
def perform (l : Library σ) : Request → Reply × Library σ
  | .get id => ({ answer := (l.get id).map .content }, l)
  | .put id content => l.settle (l.put id content)
  | .putText id text => l.settle (l.putText id text)
  | .delete id => l.settle (pure (l.delete id))
  | .has id => ({ answer := (l.has id).map .found }, l)
  | .list => (⟨l.list.value.map .ids, l.list.notices⟩, l)

/-- The replies to requests that are made one after the other. -/
def replies (l : Library σ) : List Request → List Reply
  | [] => []
  | request :: rest => (l.perform request).1 :: replies (l.perform request).2 rest

/-- The library after requests. -/
def after (l : Library σ) : List Request → Library σ
  | [] => l
  | request :: rest => after (l.perform request).2 rest

theorem putText_of_put {l : Library σ} {id : DocumentId} {text : String} {records : σ}
    (put : Records.put l.records id.text text = .ok records) :
    l.putText id text = ⟨.ok ⟨records⟩, [.stored id]⟩ := by
  rw [putText, put]
  rfl

theorem delete_of_delete {l : Library σ} {id : DocumentId} {records : σ}
    (delete : Records.delete l.records id.text = .ok records) : l.delete id = .ok ⟨records⟩ := by
  rw [Library.delete, delete]
  rfl

end Perform

/-- A library in a directory holds the records of one in memory that is on, all of them under ids. -/
structure SameRecords (files : Library DirectoryRecords) (memory : Library MemoryRecords)
    (origin : Location) : Prop where
  mirrors : files.records.Mirrors origin memory.records.entries
  available : memory.records.available = true
  fits : ∀ id : DocumentId, DirectoryRecords.Fits files.records.base id.text
  valid : ∀ key, (memory.records.entries.get? key).isSome = true → DocumentId.fault? key = none

namespace SameRecords

variable {files : Library DirectoryRecords} {memory : Library MemoryRecords} {origin : Location}

/-- An empty directory and an empty memory hold the same records, and the names of the files for ids are
short enough. -/
theorem of_fresh {s : DirectoryRecords} {m : MemoryRecords} (fresh : s.Fresh)
    (available : m.available = true) (blank : m.entries = ∅) :
    ∃ origin, SameRecords ⟨s⟩ ⟨m⟩ origin := by
  obtain ⟨origin, mirrors⟩ := fresh.mirrors
  refine ⟨origin, blank ▸ mirrors, available, fun id => ?_, fun key held => ?_⟩
  · have short : (DirectoryRecords.fileName id.text).utf8ByteSize ≤ Disk.nameLimit :=
      (DirectoryRecords.storable id).short.trans (by decide)
    exact ⟨short, fresh.room _ short⟩
  · simp [blank] at held

/-- Both libraries read the same text. -/
theorem get (same : SameRecords files memory origin) (id : DocumentId) :
    files.get id = memory.get id ∧ memory.get id =
      match memory.records.entries.get? id.text with
      | some text => Content.ofText text
      | none => .ok .emptyScene := by
  have read : Records.get files.records id.text = .ok (memory.records.entries.get? id.text) :=
    same.mirrors.get (same.fits id)
  have recalled : Records.get memory.records id.text = .ok (memory.records.entries.get? id.text) :=
    MemoryRecords.whenAvailable_of_available same.available _
  constructor
  · rw [Library.get, read, Library.get, recalled]
  · rw [Library.get, recalled]
    rfl

theorem has (same : SameRecords files memory origin) (id : DocumentId) :
    files.has id = .ok (memory.records.entries.contains id.text) ∧
      memory.has id = .ok (memory.records.entries.contains id.text) :=
  ⟨congrArg Except.ok (same.mirrors.contains (same.fits id)),
    MemoryRecords.whenAvailable_of_available same.available _⟩

/-- Both libraries take a text, and tell of it alike. -/
theorem putText (same : SameRecords files memory origin) (id : DocumentId) (text : String) :
    ∃ files' memory', files.putText id text = ⟨.ok files', [.stored id]⟩ ∧
      memory.putText id text = ⟨.ok memory', [.stored id]⟩ ∧ SameRecords files' memory' origin := by
  obtain ⟨written, put, base, mirrors⟩ := same.mirrors.put (same.fits id) text
  refine ⟨_, _, putText_of_put put,
    putText_of_put (MemoryRecords.whenAvailable_of_available same.available _), mirrors,
    same.available, base ▸ same.fits, fun key held => ?_⟩
  rw [SortedMap.get?_insert] at held
  split at held
  · next own => exact own ▸ id.valid
  · exact same.valid key held

theorem delete (same : SameRecords files memory origin) (id : DocumentId) :
    ∃ files' memory', files.delete id = .ok files' ∧ memory.delete id = .ok memory' ∧
      SameRecords files' memory' origin := by
  obtain ⟨left, delete, base, mirrors⟩ := same.mirrors.delete (same.fits id)
  refine ⟨_, _, delete_of_delete delete,
    delete_of_delete (MemoryRecords.whenAvailable_of_available same.available _), mirrors,
    same.available, base ▸ same.fits, fun key held => ?_⟩
  rw [SortedMap.get?_erase] at held
  split at held
  · simp at held
  · exact same.valid key held

/-- Both libraries list the same ids in ascending order: those that have a record. -/
theorem list (same : SameRecords files memory origin) :
    ∃ ids, files.list = pure (.ok ids) ∧ memory.list = pure (.ok ids) ∧ ids.Pairwise (· < ·) ∧
      ∀ id : DocumentId, id ∈ ids ↔ memory.records.entries.contains id.text = true := by
  obtain ⟨keys, told, distinct, member⟩ := same.mirrors.keys
  obtain ⟨ids, listed, ascending, those⟩ := list_of_keys (l := files) told distinct fun key mem =>
    same.valid key ((member key).mp mem).2
  obtain ⟨ids', listed', ascending', those'⟩ := list_of_keys (l := memory)
    (MemoryRecords.whenAvailable_of_available same.available _) memory.records.entries.keys_nodup
    fun key mem => same.valid key (SortedMap.mem_keys.mp mem)
  have held (id : DocumentId) : id ∈ ids ↔ memory.records.entries.contains id.text = true := by
    rw [those, member, SortedMap.contains]
    exact and_iff_right (DocumentId.ne_empty_of_valid id.valid)
  have held' (id : DocumentId) : id ∈ ids' ↔ memory.records.entries.contains id.text = true := by
    rw [those', SortedMap.mem_keys, SortedMap.contains]
  -- A directory and a map tell their keys in different orders; sorted, only the members count.
  have one : ids = ids' := DocumentId.ascending_ext ascending ascending' fun id =>
    (held id).trans (held' id).symm
  exact ⟨ids, listed, one ▸ listed', ascending, held⟩

/-- A request is answered alike by both libraries, and they hold the same records afterwards. -/
theorem perform (same : SameRecords files memory origin) (request : Request) :
    (files.perform request).1 = (memory.perform request).1 ∧
      SameRecords (files.perform request).2 (memory.perform request).2 origin := by
  cases request with
  | get id =>
    refine ⟨?_, same⟩
    simp only [Library.perform, (same.get id).1]
  | put id content =>
    obtain ⟨files', memory', put, put', again⟩ := same.putText id content.toText
    simp only [Library.perform, Library.put, put, put', settle, true_and]
    exact again
  | putText id text =>
    obtain ⟨files', memory', put, put', again⟩ := same.putText id text
    simp only [Library.perform, put, put', settle, true_and]
    exact again
  | delete id =>
    obtain ⟨files', memory', delete, delete', again⟩ := same.delete id
    simp only [Library.perform, delete, delete', settle]
    exact ⟨rfl, again⟩
  | has id =>
    refine ⟨?_, same⟩
    simp only [Library.perform, (same.has id).1, (same.has id).2]
  | list =>
    obtain ⟨ids, listed, listed', _⟩ := same.list
    refine ⟨?_, same⟩
    simp only [Library.perform, listed, listed']

/-- The one failure is a record that cannot be read as content. -/
theorem failure (same : SameRecords files memory origin) {request : Request} {e : StoreError}
    (failed : (memory.perform request).1.answer = .error e) :
    ∃ cause, e = .malformedContent cause := by
  cases request with
  | get id =>
    simp only [Library.perform, (same.get id).2] at failed
    split at failed
    · next text _ =>
      unfold Content.ofText at failed
      split at failed
      · cases failed
      · next cause _ => exact ⟨cause, (Except.error.inj failed).symm⟩
    · cases failed
  | put id content =>
    obtain ⟨_, _, _, put, _⟩ := same.putText id content.toText
    simp [Library.perform, Library.put, put, settle] at failed
  | putText id text =>
    obtain ⟨_, _, _, put, _⟩ := same.putText id text
    simp [Library.perform, put, settle] at failed
  | delete id =>
    obtain ⟨_, _, _, delete, _⟩ := same.delete id
    simp [Library.perform, delete, settle] at failed
  | has id => simp [Library.perform, (same.has id).2, Except.map] at failed
  | list =>
    obtain ⟨_, _, listed, _⟩ := same.list
    simp [Library.perform, listed, Except.map] at failed

/-- Requests that are made one after the other. -/
theorem run (same : SameRecords files memory origin) (requests : List Request) :
    files.replies requests = memory.replies requests ∧
      SameRecords (files.after requests) (memory.after requests) origin := by
  induction requests generalizing files memory with
  | nil => exact ⟨rfl, same⟩
  | cons request rest ih =>
    obtain ⟨alike, again⟩ := same.perform request
    obtain ⟨replies, last⟩ := ih again
    exact ⟨congrArg₂ List.cons alike replies, last⟩

theorem failures (same : SameRecords files memory origin) (requests : List Request) {reply : Reply}
    (given : reply ∈ memory.replies requests) {e : StoreError} (failed : reply.answer = .error e) :
    ∃ cause, e = .malformedContent cause := by
  induction requests generalizing files memory with
  | nil => cases given
  | cons request rest ih =>
    rcases List.mem_cons.mp given with rfl | later
    · exact same.failure failed
    · exact ih (same.perform request).2 later

end SameRecords

/-- Two libraries cannot be told apart by requests. -/
structure AnswerAlike {σ τ : Type} [Records σ] [Records τ] (one : Library σ) (other : Library τ)
    (requests : List Request) : Prop where
  replies : one.replies requests = other.replies requests
  /-- No request fails but for a record that cannot be read as content. -/
  failures : ∀ reply ∈ one.replies requests, ∀ e, reply.answer = .error e →
    ∃ cause, e = .malformedContent cause
  /-- Afterwards both list the same ids in ascending order, which are those that have a record. -/
  listed : ∃ ids, (one.after requests).list = pure (.ok ids) ∧
    (other.after requests).list = pure (.ok ids) ∧ ids.Pairwise (· < ·) ∧
    ∀ id, (one.after requests).has id = .ok (decide (id ∈ ids)) ∧
      (other.after requests).has id = .ok (decide (id ∈ ids))

/-- Whatever is asked of a library in an empty directory that nobody else uses, it is answered as by an
empty library in memory. -/
theorem files_answer_as_memory {s : DirectoryRecords} {m : MemoryRecords} (fresh : s.Fresh)
    (available : m.available = true) (blank : m.entries = ∅) (requests : List Request) :
    AnswerAlike ⟨s⟩ ⟨m⟩ requests := by
  obtain ⟨origin, same⟩ := SameRecords.of_fresh fresh available blank
  obtain ⟨replies, last⟩ := same.run requests
  obtain ⟨ids, listed, listed', ascending, those⟩ := last.list
  have told (id : DocumentId) :
      (Library.after ⟨m⟩ requests).records.entries.contains id.text = decide (id ∈ ids) :=
    Bool.eq_iff_iff.mpr ((those id).symm.trans decide_eq_true_iff.symm)
  exact {
    replies
    failures reply given e failed := same.failures requests (replies ▸ given) failed
    listed := ⟨ids, listed, listed', ascending, fun id =>
      ⟨told id ▸ (last.has id).1, told id ▸ (last.has id).2⟩⟩ }

/-- A directory with nothing in it. -/
def emptyDesk : DirectoryRecords := ⟨⟨"/desk"⟩, Disk.blank ["desk"]⟩

theorem fresh_emptyDesk : emptyDesk.Fresh := by
  have located : emptyDesk.disk.locate emptyDesk.base = .ok ["desk"] :=
    Disk.locate_eq_ok.mpr ⟨rfl, by decide, by decide, rfl⟩
  refine ⟨Disk.isDirectory_iff.mpr ⟨["desk"], located, rfl⟩, ?_, fun name short => ?_⟩
  · rw [Disk.list, Disk.lookup_directory located rfl, located]
    rfl
  · have joined := Path.utf8ByteSize_join_le emptyDesk.base name
    have base : emptyDesk.base.text.utf8ByteSize = 5 := by decide
    unfold Disk.nameLimit at short
    unfold Disk.pathLimit
    omega

/-- Ids that are no names of files, and a text that is not JSON. -/
def oddRequests : List Request :=
  [.putText ⟨"a/b", by decide⟩ "[", .get ⟨"a/b", by decide⟩, .putText ⟨"..", by decide⟩ "[]",
    .delete ⟨"%2E", by decide⟩, .list]

theorem oddRequests_alike :
    AnswerAlike ⟨emptyDesk⟩ ⟨({} : MemoryRecords)⟩ oddRequests ∧
      (Library.replies ⟨({} : MemoryRecords)⟩ oddRequests).map (fun reply => reply.answer.isOk) =
        [true, false, true, true, true] :=
  ⟨files_answer_as_memory fresh_emptyDesk rfl rfl oddRequests, by decide +kernel⟩

end Sketchbook.Library
