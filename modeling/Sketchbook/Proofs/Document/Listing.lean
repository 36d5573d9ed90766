import Mathlib.Data.List.Pairwise
import Sketchbook.Proofs.Document.Ids
import Sketchbook.Proofs.Store.Footprints

/-!
What a library lists in a directory that others may have filled. Every document that has a record is
listed, in ascending order, but so is every other name that is read as the name of a record. The list
tells which documents have a record if and only if there is no such other name (`listing_agrees_iff`).
-/
namespace Sketchbook

open DirectoryRecords (fileName keyOf?)

/-- The document that a name in a directory is taken to be the record of. -/
def Library.idOf? (name : String) : Option DocumentId :=
  (keyOf? name).bind fun key => (DocumentId.parse key).toOption

namespace Library

variable {l : Library DirectoryRecords} {name : String} {names : List String} {id : DocumentId}
  {origin : Location}

theorem idOf?_eq_some : idOf? name = some id ↔ keyOf? name = some id.text := by
  constructor
  · intro told
    obtain ⟨key, back, parsed⟩ := Option.bind_eq_some_iff.mp told
    cases parse : DocumentId.parse key with
    | error fault =>
      rw [parse] at parsed
      cases parsed
    | ok own =>
      rw [parse] at parsed
      obtain rfl := Option.some.inj parsed
      rw [back, DocumentId.text_of_parse parse]
  · intro back
    rw [idOf?, back, Option.bind_some, DocumentId.parse_text]
    rfl

theorem idOf?_fileName (id : DocumentId) : idOf? (fileName id.text) = some id := by
  rw [idOf?_eq_some, DirectoryRecords.keyOf?_fileName,
    if_neg (DocumentId.ne_empty_of_valid id.valid)]

/-- The names in a directory are listed as the documents that they are taken for. -/
private theorem list_directory (stands : l.records.StandsAt origin) :
    ∃ names, l.records.disk.list l.records.base = .ok names ∧ names.Nodup ∧
      (∀ name, name ∈ names ↔ (l.records.disk.node? (origin ++ [name])).isSome = true) ∧
      l.list.value = .ok (DocumentId.sort (names.filterMap idOf?)) := by
  obtain ⟨names, listed, distinct, member, keys⟩ := DirectoryRecords.keys_directory stands
  refine ⟨names, listed, distinct, member, ?_⟩
  have told : Records.keys l.records = .ok (names.filterMap keyOf?) := keys
  rw [value_list, told, Except.map, List.filterMap_filterMap]
  rfl

/-- The name of a record is one of the names in the directory. -/
private theorem mem_of_has (stands : l.records.StandsAt origin)
    (member : ∀ name, name ∈ names ↔ (l.records.disk.node? (origin ++ [name])).isSome = true)
    (there : l.has id = .ok true) : fileName id.text ∈ names := by
  obtain ⟨_, content, present⟩ :=
    (DirectoryRecords.contains_iff stands).mp (Except.ok.inj there)
  rw [member, present]
  rfl

/-- Names that are taken for different documents are listed as different documents. -/
private theorem nodup_of_names (distinct : names.Nodup)
    (own : ∀ name ∈ names, ∀ id, idOf? name = some id → name = fileName id.text) :
    (names.filterMap idOf?).Nodup := by
  refine List.Pairwise.filterMap _ ?_ (List.Pairwise.and_mem.mp distinct)
  rintro one other ⟨inOne, inOther, apart⟩ id back _ back' rfl
  exact apart ((own one inOne id back).trans (own other inOther id back').symm)

/-- In an ascending list no document is listed for two names. -/
private theorem eq_of_ascending {one other : String}
    (ascending : (DocumentId.sort (names.filterMap idOf?)).Pairwise (· < ·))
    (inOne : one ∈ names) (inOther : other ∈ names) (back : idOf? one = some id)
    (back' : idOf? other = some id) : one = other := by
  have distinct : (DocumentId.sort (names.filterMap idOf?)).Nodup := by
    refine ascending.imp ?_
    rintro a _ below rfl
    exact KeyOrder.irrefl a below
  have apart := List.pairwise_filterMap.mp (DocumentId.nodup_sort.mp distinct)
  have symmetric : Std.Symm fun a b : String => ∀ c, idOf? a = some c → ∀ d, idOf? b = some d → c ≠ d :=
    ⟨fun _ _ apart c back d back' same => apart d back' c back same.symm⟩
  by_contra different
  exact apart.forall inOne inOther different id back id back' rfl

/-- A library in a directory lists the documents that the names in it are taken for, each as often as
there are such names, in ascending order; so every document that has a record is listed. The list is
strictly ascending and holds no other documents if and only if each of these names is that of a record. -/
theorem listing_agrees_iff (there : l.records.disk.isDirectory l.records.base = true) :
    ∃ names ids, l.records.disk.list l.records.base = .ok names ∧ l.list.value = .ok ids ∧
      ids.Pairwise (fun a b => ¬ b < a) ∧
      (∀ id, ids.count id = names.countP fun name => idOf? name == some id) ∧
      (∀ id, l.has id = .ok true → id ∈ ids) ∧
      ((ids.Pairwise (· < ·) ∧ ∀ id, id ∈ ids ↔ l.has id = .ok true) ↔
        ∀ name ∈ names, ∀ id, idOf? name = some id →
          name = fileName id.text ∧ l.has id = .ok true) := by
  obtain ⟨origin, located, directory⟩ := Disk.isDirectory_iff.mp there
  have stands : l.records.StandsAt origin := ⟨located, directory⟩
  obtain ⟨names, listed, distinct, member, told⟩ := list_directory stands
  have known (id : DocumentId) : id ∈ DocumentId.sort (names.filterMap idOf?) ↔
      ∃ name ∈ names, idOf? name = some id := by
    rw [DocumentId.mem_sort, List.mem_filterMap]
  have held (id : DocumentId) (has : l.has id = .ok true) :
      id ∈ DocumentId.sort (names.filterMap idOf?) :=
    (known id).mpr ⟨_, mem_of_has stands member has, idOf?_fileName id⟩
  refine ⟨names, _, listed, told, DocumentId.sort_ordered _, ?_, held, ?_, ?_⟩
  · intro id
    rw [DocumentId.count_sort, List.count_filterMap]
  · rintro ⟨ascending, agrees⟩ name inside id back
    have has := (agrees id).mp ((known id).mpr ⟨name, inside, back⟩)
    exact ⟨eq_of_ascending ascending inside (mem_of_has stands member has) back
      (idOf?_fileName id), has⟩
  · intro own
    refine ⟨DocumentId.sort_ascending (nodup_of_names distinct fun name inside id back =>
      (own name inside id back).1), fun id => ⟨fun inside => ?_, held id⟩⟩
    obtain ⟨name, mem, back⟩ := (known id).mp inside
    exact (own name mem id back).2

/-- Things that are taken for records: a file whose name no key is written as, two files for one
document, and a directory. -/
def strayDesk : Library DirectoryRecords where
  records := {
    base := ⟨"desk"⟩
    disk := {
      nodes := .ofList [(["desk"], .directory), (["desk", "a%2fb.json"], .file "[1]".toUTF8),
        (["desk", "c d.json"], .file "[2]".toUTF8), (["desk", "c%20d.json"], .file "[3]".toUTF8),
        (["desk", "e.json"], .directory)]
      workDir := [] } }

private theorem standsAt_strayDesk : strayDesk.records.StandsAt ["desk"] :=
  ⟨Disk.locate_eq_ok.mpr ⟨rfl, by decide, by decide, rfl⟩, rfl⟩

theorem strayDesk_counts :
    strayDesk.records.disk.isDirectory strayDesk.records.base = true ∧
      ∃ ids, strayDesk.list.value = .ok ids ∧
        [⟨"a/b", by decide⟩, ⟨"c d", by decide⟩, ⟨"e", by decide⟩].map ids.count = [1, 2, 1] := by
  obtain ⟨located, directory⟩ := standsAt_strayDesk
  have there := Disk.isDirectory_iff.mpr ⟨_, located, directory⟩
  obtain ⟨names, ids, listed, told, _, counted, _⟩ := listing_agrees_iff there
  have those : ["a%2fb.json", "c d.json", "c%20d.json", "e.json"] = names := by
    rw [Disk.list, Disk.lookup_directory located directory, located] at listed
    exact Eq.trans (by decide +kernel) (Except.ok.inj listed)
  refine ⟨there, ids, told, ?_⟩
  simp only [List.map_cons, List.map_nil, counted, ← those]
  decide +kernel

/-- No file that is read as the record of a document stands at a place where there is none. -/
private theorem not_has_strayDesk {id : DocumentId}
    (other : ∀ content, strayDesk.records.disk.node? ["desk", fileName id.text] ≠
      some (.file content)) : strayDesk.has id ≠ .ok true := by
  intro there
  obtain ⟨_, content, present⟩ :=
    (DirectoryRecords.contains_iff standsAt_strayDesk).mp (Except.ok.inj there)
  exact other content present

/-- A list of documents that is not ascending and tells of documents that have no record. -/
theorem stray_names_are_listed : ∃ ids, strayDesk.list.value = .ok ids ∧
    ¬ ids.Pairwise (· < ·) ∧
    (∃ id, id.text = "a/b" ∧ id ∈ ids ∧ strayDesk.has id ≠ .ok true) ∧
    ∃ id, id.text = "e" ∧ id ∈ ids ∧ strayDesk.has id ≠ .ok true := by
  obtain ⟨names, _, _, member, told⟩ := list_directory standsAt_strayDesk
  have listed {id : DocumentId} (name : String) (back : idOf? name = some id)
      (there : (strayDesk.records.disk.node? ["desk", name]).isSome = true) :
      id ∈ DocumentId.sort (names.filterMap idOf?) := by
    rw [DocumentId.mem_sort, List.mem_filterMap]
    exact ⟨name, (member name).mpr there, back⟩
  refine ⟨_, told, fun ascending => ?_, ⟨⟨"a/b", by decide⟩, rfl, ?_, ?_⟩,
    ⟨⟨"e", by decide⟩, rfl, ?_, ?_⟩⟩
  · have plain : idOf? "c d.json" = some ⟨"c d", by decide⟩ := by decide +kernel
    have escaped : idOf? "c%20d.json" = some ⟨"c d", by decide⟩ := by decide +kernel
    have same := eq_of_ascending ascending ((member "c d.json").mpr rfl)
      ((member "c%20d.json").mpr rfl) plain escaped
    exact absurd same (by decide)
  · exact listed "a%2fb.json" (by decide +kernel) rfl
  · apply not_has_strayDesk
    intro content present
    have name : fileName "a/b" = "a%2Fb.json" := by decide
    rw [name] at present
    cases present
  · exact listed "e.json" (by decide +kernel) rfl
  · apply not_has_strayDesk
    intro content present
    have name : fileName "e" = "e.json" := by decide
    rw [name] at present
    cases present

end Library

end Sketchbook
