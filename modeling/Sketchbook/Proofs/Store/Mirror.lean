import Mathlib.Data.List.Basic
import Sketchbook.Proofs.Store.Directory

/-!
A directory that holds the records of a map and nothing else. The operations of the store answer what the
map answers, and the directory goes on holding what the map holds (`Mirrors.put`, `Mirrors.delete`), as
long as the keys fit into names of files.
-/
namespace Sketchbook.DirectoryRecords

/-- The directory of a store holds the texts of a map, each in the file for its key, and nothing else. -/
structure Mirrors (s : DirectoryRecords) (origin : Location) (texts : SortedMap String String) :
    Prop where
  stands : s.StandsAt origin
  file : ∀ key, Fits s.base key →
    s.disk.node? (origin ++ [fileName key]) = (texts.get? key).map fun text => .file text.toUTF8
  named : ∀ name, (s.disk.node? (origin ++ [name])).isSome = true →
    ∃ key, name = fileName key ∧ (texts.get? key).isSome = true
  fits : ∀ key, (texts.get? key).isSome = true → Fits s.base key

/-- The directory of a store is there and nothing is in it, and no name that a disk allows makes a path
that is too long. -/
structure Fresh (s : DirectoryRecords) : Prop where
  there : s.disk.isDirectory s.base = true
  nothing : s.disk.list s.base = .ok []
  room : ∀ name : String, name.utf8ByteSize ≤ Disk.nameLimit →
    (s.base.join name).text.utf8ByteSize ≤ Disk.pathLimit

/-- A directory with nothing in it holds what the empty map holds. -/
theorem Fresh.mirrors {s : DirectoryRecords} (fresh : s.Fresh) : ∃ origin, s.Mirrors origin ∅ := by
  obtain ⟨origin, located, there⟩ := Disk.isDirectory_iff.mp fresh.there
  obtain ⟨names, listed, _, member⟩ := Disk.list_directory located there
  have free (name : String) : s.disk.node? (origin ++ [name]) = none := by
    have absent := member name
    rw [← Except.ok.inj (fresh.nothing.symm.trans listed)] at absent
    simpa using absent
  exact ⟨origin, {
    stands := ⟨located, there⟩
    file key _ := free (fileName key)
    named name there := by simp [free name] at there
    fits key there := by simp at there }⟩

namespace Mirrors

variable {s : DirectoryRecords} {origin : Location} {texts : SortedMap String String} {key : String}

theorem get (mirrors : s.Mirrors origin texts) (fits : Fits s.base key) :
    s.get key = .ok (texts.get? key) := by
  have file := mirrors.file key fits
  cases held : texts.get? key with
  | none => exact get_absent mirrors.stands fits (by rw [file, held]; rfl)
  | some text => exact get_file mirrors.stands fits (by rw [file, held]; rfl)

theorem contains (mirrors : s.Mirrors origin texts) (fits : Fits s.base key) :
    s.contains key = texts.contains key := by
  have file := mirrors.file key fits
  rw [SortedMap.contains]
  cases held : texts.get? key with
  | none => exact contains_absent mirrors.stands fits (by rw [file, held]; rfl)
  | some text => exact contains_file mirrors.stands fits (by rw [file, held]; rfl)

/-- No directory stands where the file for a key belongs. -/
theorem free (mirrors : s.Mirrors origin texts) (fits : Fits s.base key) :
    s.disk.node? (origin ++ [fileName key]) ≠ some .directory := by
  rw [mirrors.file key fits]
  cases texts.get? key <;> simp

/-- What stands in the file for one key may change if the map changes alike. -/
theorem of_change {disk : Disk} {changed : SortedMap String String} (mirrors : s.Mirrors origin texts)
    (fits : Fits s.base key) (value : Option String) (stay : s.disk.DirectoriesStay disk)
    (root : disk.workDir = s.disk.workDir)
    (node : ∀ name, disk.node? (origin ++ [name]) =
      if name = fileName key then value.map fun text => .file text.toUTF8
      else s.disk.node? (origin ++ [name]))
    (held : ∀ other, changed.get? other = if other = key then value else texts.get? other) :
    Mirrors { s with disk } origin changed where
  stands := mirrors.stands.of_stay stay root
  file other room := by
    rw [node, held]
    by_cases same : other = key
    · rw [if_pos (congrArg fileName same), if_pos same]
    · rw [if_neg fun names => same (fileName_injective names), if_neg same]
      exact mirrors.file other room
  named name there := by
    rw [node] at there
    split at there
    · next same => exact ⟨key, same, by simpa [held] using there⟩
    · next apart =>
      obtain ⟨other, rfl, present⟩ := mirrors.named name there
      have different : other ≠ key := fun same => apart (congrArg fileName same)
      exact ⟨other, rfl, by rw [held, if_neg different]; exact present⟩
  fits other present := by
    rw [held] at present
    split at present
    · next same => exact same ▸ fits
    · exact mirrors.fits other present

/-- A text that is put stands in the file for its key, and the other files stay. -/
theorem put (mirrors : s.Mirrors origin texts) (fits : Fits s.base key) (text : String) :
    ∃ changed : DirectoryRecords, s.put key text = .ok changed ∧ changed.base = s.base ∧
      changed.Mirrors origin (texts.insert key text) := by
  have free := mirrors.free fits
  refine ⟨_, put_file mirrors.stands fits free, rfl, ?_⟩
  refine mirrors.of_change fits (some text) (Disk.directoriesStay_insert _ free) rfl
    (fun name => ?_) fun other => texts.get?_insert key other text
  rw [Disk.node?_insert, if_neg (by simp)]
  simp

/-- A removal takes away the file for its key, if there is one, and the other files stay. -/
theorem delete (mirrors : s.Mirrors origin texts) (fits : Fits s.base key) :
    ∃ changed : DirectoryRecords, s.delete key = .ok changed ∧ changed.base = s.base ∧
      changed.Mirrors origin (texts.erase key) := by
  have file := mirrors.file key fits
  cases held : texts.get? key with
  | none =>
    -- Nothing is removed on either side, which is a change to nothing all the same.
    refine ⟨s, delete_absent mirrors.stands fits (by rw [file, held]; rfl), rfl, ?_⟩
    refine mirrors.of_change fits none (fun _ there => there) rfl (fun name => ?_)
      fun other => texts.get?_erase key other
    split
    · next same => rw [same, file, held]
    · rfl
  | some text =>
    have free := mirrors.free fits
    refine ⟨_, delete_file mirrors.stands fits (by rw [file, held]; rfl), rfl, ?_⟩
    refine mirrors.of_change fits none (Disk.directoriesStay_erase free) rfl
      (fun name => ?_) fun other => texts.get?_erase key other
    rw [Disk.node?_erase, if_neg (by simp)]
    simp

/-- The keys of the store are those of the map, in any order; an empty key is not told. -/
theorem keys (mirrors : s.Mirrors origin texts) :
    ∃ keys, s.keys = .ok keys ∧ keys.Nodup ∧
      ∀ key, key ∈ keys ↔ key ≠ "" ∧ (texts.get? key).isSome = true := by
  obtain ⟨names, _, distinct, member, keys⟩ := keys_directory mirrors.stands
  have told {name key : String} (mem : name ∈ names) (back : keyOf? name = some key) :
      name = fileName key ∧ key ≠ "" ∧ (texts.get? key).isSome = true := by
    obtain ⟨own, rfl, held⟩ := mirrors.named name ((member name).mp mem)
    rw [keyOf?_fileName] at back
    split at back
    · cases back
    · next notEmpty =>
      cases back
      exact ⟨rfl, notEmpty, held⟩
  refine ⟨names.filterMap keyOf?, keys, ?_, ?_⟩
  · refine List.Pairwise.filterMap _ ?_ (List.Pairwise.and_mem.mp distinct)
    rintro one other ⟨inOne, inOther, apart⟩ key back _ back' rfl
    exact apart ((told inOne back).1.trans (told inOther back').1.symm)
  · intro key
    rw [List.mem_filterMap]
    constructor
    · rintro ⟨name, mem, back⟩
      exact (told mem back).2
    · rintro ⟨notEmpty, held⟩
      refine ⟨fileName key, (member _).mpr ?_, by rw [keyOf?_fileName, if_neg notEmpty]⟩
      rw [mirrors.file key (mirrors.fits key held), Option.isSome_map]
      exact held

end Mirrors

end Sketchbook.DirectoryRecords
