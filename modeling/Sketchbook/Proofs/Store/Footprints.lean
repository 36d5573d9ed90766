import Sketchbook.Proofs.Disk.Footprints
import Sketchbook.Proofs.Store.Directory

/-!
What an operation on records in a directory reads and changes. The answer for a key depends only on what
stands at the place of its file (`lookup_congr`), and a text that is put or removed changes only the file
there (`changesOnly_of_put`, `changesOnly_of_delete`). A record whose place is not written stays when
directories and other files are added (`contains_of_adds`, `get_of_adds`). Two stores on disks that differ
elsewhere are changed alike (`Paired.put`, `Paired.delete`).
-/
namespace Sketchbook.DirectoryRecords

variable {s changed : DirectoryRecords} {origin : Location} {key text : String}

/-- The places of the files for some keys. -/
def places (s : DirectoryRecords) (keys : String → Prop) (place : Location) : Prop :=
  ∃ origin key, s.disk.locate s.base = .ok origin ∧ keys key ∧ place = origin ++ [fileName key]

/-- The directory of the store is no place of a file. -/
theorem not_places_base {keys : String → Prop} (led : s.disk.locate s.base = .ok origin) :
    ¬ s.places keys origin := by
  rintro ⟨same, key, led', _, shape⟩
  obtain rfl := Except.ok.inj (led.symm.trans led')
  simp at shape

/-- The file for a key is not at the place of a file for another key. -/
theorem not_places_of_ne {keys : String → Prop} (led : s.disk.locate s.base = .ok origin)
    (other : ¬ keys key) : ¬ s.places keys (origin ++ [fileName key]) := by
  rintro ⟨same, own, led', member, shape⟩
  obtain rfl := Except.ok.inj (led.symm.trans led')
  have name : fileName key = fileName own := by simpa using shape
  exact other (fileName_injective name ▸ member)

/-! ### Reading -/

/-- Two stores whose directories are at the same place answer alike for a key if the same stands there
and at the place of its file. -/
theorem lookup_congr (led : s.disk.locate s.base = .ok origin)
    (still : changed.disk.locate s.base = .ok origin) (base : changed.base = s.base)
    (around : changed.disk.node? origin = s.disk.node? origin)
    (same : changed.disk.node? (origin ++ [fileName key]) = s.disk.node? (origin ++ [fileName key])) :
    changed.disk.lookup (changed.path key) = s.disk.lookup (s.path key) := by
  have named := isName_fileName key
  have slash := endsInSlash_path s key
  have path : changed.path key = s.path key := by rw [path, DirectoryRecords.path, base]
  have step : changed.disk.step origin (fileName key) = s.disk.step origin (fileName key) := by
    rw [Disk.step, Disk.step, around]
  rw [path]
  unfold Disk.lookup
  rw [DirectoryRecords.path] at slash ⊢
  rw [Disk.locate_join named led, Disk.locate_join named still, step]
  split
  · rfl
  · cases further : s.disk.step origin (fileName key) with
    | error e => rfl
    | ok place =>
      have there := Disk.directory_of_step further
      rw [Disk.step_directory named there] at further
      split at further
      · cases further
      · obtain rfl := Except.ok.inj further
        simp only [bind, Except.bind, same]

theorem path_congr (base : changed.base = s.base) : changed.path key = s.path key := by
  rw [path, path, base]

theorem readText_of_lookup
    (same : changed.disk.lookup (changed.path key) = s.disk.lookup (s.path key)) :
    changed.disk.readText (changed.path key) = s.disk.readText (s.path key) := by
  unfold Disk.readText Disk.readBytes
  rw [same]

theorem get_of_lookup (base : changed.base = s.base)
    (same : changed.disk.lookup (changed.path key) = s.disk.lookup (s.path key)) :
    changed.get key = s.get key := by
  unfold get
  rw [readText_of_lookup same, path_congr base]

theorem contains_of_lookup
    (same : changed.disk.lookup (changed.path key) = s.disk.lookup (s.path key)) :
    changed.contains key = s.contains key := by
  rw [contains, contains, Disk.isFile, Disk.isFile, same]

/-- A record is a file in the directory of the store. -/
theorem contains_iff (stands : s.StandsAt origin) : s.contains key = true ↔
    Fits s.base key ∧ ∃ content, s.disk.node? (origin ++ [fileName key]) = some (.file content) := by
  constructor
  · intro there
    cases led : s.disk.locate (s.path key) with
    | error e => simp [contains, Disk.isFile, Disk.lookup, led, bind, Except.bind] at there
    | ok place =>
      obtain ⟨fits, rfl⟩ := fits_of_locate stands led
      refine ⟨fits, ?_⟩
      cases present : s.disk.node? (origin ++ [fileName key]) with
      | none =>
        rw [contains_absent stands fits present] at there
        cases there
      | some node =>
        cases node with
        | directory =>
          rw [contains, Disk.isFile, lookup_some stands fits present] at there
          cases there
        | file content => exact ⟨content, rfl⟩
  · rintro ⟨fits, content, present⟩
    exact contains_file stands fits present

/-- Where there is a record, the directory of the store stands. -/
theorem standsAt_of_contains (named : s.base.text.isEmpty = false) (there : s.contains key = true) :
    ∃ origin, s.StandsAt origin := by
  cases led : s.disk.locate (s.path key) with
  | error e => simp [contains, Disk.isFile, Disk.lookup, led, bind, Except.bind] at there
  | ok place =>
    obtain ⟨origin, located, directory, _⟩ := Disk.of_locate_join (isName_fileName key) named led
    exact ⟨origin, located, directory⟩

/-! ### Changing -/

/-- A text that is put changes the file for its key only. -/
theorem changesOnly_of_put (put : s.put key text = .ok changed) :
    changed.base = s.base ∧ s.disk.ChangesOnly changed.disk (s.places (· = key)) := by
  obtain ⟨origin, stands, _, free, rfl⟩ := put_eq_ok.mp put
  refine ⟨rfl, (Disk.ChangesOnly.insert_file free text.toUTF8).mono fun place own => ?_⟩
  exact ⟨origin, key, stands.located, rfl, own⟩

/-- A text that is put is there. -/
theorem contains_of_put (put : s.put key text = .ok changed) : changed.contains key = true := by
  obtain ⟨_, holds⟩ := holdsText_of_put put
  exact holds.contains

/-- A record that is removed is not there any more, and no other file is touched. -/
theorem changesOnly_of_delete (named : s.base.text.isEmpty = false) (there : s.contains key = true) :
    ∃ changed, s.delete key = .ok changed ∧ changed.base = s.base ∧ changed.contains key = false ∧
      s.disk.ChangesOnly changed.disk (s.places (· = key)) := by
  obtain ⟨origin, stands⟩ := standsAt_of_contains named there
  obtain ⟨fits, content, present⟩ := (contains_iff stands).mp there
  have free : s.disk.node? (origin ++ [fileName key]) ≠ some .directory := by simp [present]
  have only := Disk.ChangesOnly.erase_file free
  refine ⟨_, delete_file stands fits present, rfl, ?_, only.mono fun place own => ?_⟩
  · have still := stands.of_stay (fun place => (only.directories place).mpr) only.workDir
    refine contains_absent still fits ?_
    rw [Disk.node?_erase, if_neg (by simp), if_pos rfl]
  · exact ⟨origin, key, stands.located, rfl, own⟩

section Frame

variable (base : changed.base = s.base)

include base

theorem standsAt_of_changesOnly {touched : Location → Prop}
    (only : s.disk.ChangesOnly changed.disk touched) (stands : s.StandsAt origin) :
    changed.StandsAt origin :=
  ⟨base ▸ only.locate_iff.mpr stands.located, (only.directories origin).mpr stands.there⟩

theorem standsAt_of_adds {written : Location → Prop} (adds : s.disk.Adds changed.disk written)
    (stands : s.StandsAt origin) : changed.StandsAt origin :=
  ⟨base ▸ adds.locate stands.located, adds.directories origin stands.there⟩

/-- A change that touches neither the directory of the store nor the file for a key leaves what is found
for it. -/
theorem lookup_of_changesOnly {touched : Location → Prop}
    (only : s.disk.ChangesOnly changed.disk touched) (led : s.disk.locate s.base = .ok origin)
    (around : ¬ touched origin) (untouched : ¬ touched (origin ++ [fileName key])) :
    changed.disk.lookup (changed.path key) = s.disk.lookup (s.path key) :=
  lookup_congr led (only.locate_iff.mpr led) base (only.elsewhere _ around)
    (only.elsewhere _ untouched)

/-- There is a record afterwards if there was one, as long as its place is not written. -/
theorem contains_of_adds {written : Location → Prop} (adds : s.disk.Adds changed.disk written)
    (stands : s.StandsAt origin) (apart : ¬ written (origin ++ [fileName key])) :
    changed.contains key = s.contains key := by
  have still := standsAt_of_adds base adds stands
  rw [Bool.eq_iff_iff, contains_iff still, contains_iff stands, base]
  exact and_congr_right fun _ => exists_congr fun content => adds.files _ apart content

/-- A record is read as before if its place is not written. -/
theorem get_of_adds {written : Location → Prop} (adds : s.disk.Adds changed.disk written)
    (stands : s.StandsAt origin) (apart : ¬ written (origin ++ [fileName key]))
    (there : s.contains key = true) : changed.get key = s.get key := by
  obtain ⟨_, content, present⟩ := (contains_iff stands).mp there
  have still := standsAt_of_adds base adds stands
  have around := still.there.trans stands.there.symm
  refine get_of_lookup base (lookup_congr stands.located (base ▸ still.located) base around ?_)
  rw [present]
  exact (adds.files _ apart content).mpr present

end Frame

/-! ### Two stores side by side -/

/-- Two stores in one place, on disks that differ only in files at some places. -/
structure Paired (origin : Location) (hidden : Location → Prop) (s t : DirectoryRecords) : Prop where
  base : t.base = s.base
  led : s.disk.locate s.base = .ok origin
  only : s.disk.ChangesOnly t.disk hidden

namespace Paired

variable {t : DirectoryRecords} {hidden : Location → Prop}

/-- What is found for a key is the same if the disks do not differ there. -/
theorem lookup (paired : Paired origin hidden s t) (around : ¬ hidden origin)
    (seen : ¬ hidden (origin ++ [fileName key])) :
    t.disk.lookup (t.path key) = s.disk.lookup (s.path key) :=
  lookup_of_changesOnly paired.base paired.only paired.led around seen

private theorem write (paired : Paired origin hidden s t) (there : s.disk.node? origin = some .directory)
    (key : String) (content : ByteArray) : Agree (Disk.ChangesOnly · · hidden) (s.disk.write (s.path key) content)
      (t.disk.write (t.path key) content) := by
  have stands : s.StandsAt origin := ⟨paired.led, there⟩
  have led : s.disk.locate (s.path key) = _ := locate_path stands
  have leads : t.disk.locate (t.path key) = _ :=
    locate_path (standsAt_of_changesOnly paired.base paired.only stands)
  have path : t.path key = s.path key := path_congr paired.base
  rw [path, paired.base, ← led] at leads
  rw [path]
  cases found : s.disk.locate (s.path key) with
  | ok place => exact paired.only.write found content
  | error e =>
    rw [found] at leads
    simp only [Disk.write, found, leads, bind, Except.bind]
    exact .failed e

/-- A text is put into both stores, or into neither for the same reason. The disks may differ in the file
that it replaces. -/
theorem put (paired : Paired origin hidden s t) (key text : String) :
    Agree (Paired origin hidden) (s.put key text) (t.put key text) := by
  have directory : t.disk.isDirectory t.base = s.disk.isDirectory s.base := by
    rw [Bool.eq_iff_iff, Disk.isDirectory_iff, Disk.isDirectory_iff, paired.base]
    exact exists_congr fun place => and_congr paired.only.locate_iff (paired.only.directories place)
  by_cases stands : s.disk.isDirectory s.base = true
  · obtain ⟨place, led, there⟩ := Disk.isDirectory_iff.mp stands
    obtain rfl := Except.ok.inj (paired.led.symm.trans led)
    have written := paired.write there key text.toUTF8
    obtain ⟨e, own, other⟩ | ⟨disk, disk', own, other, only⟩ := written.outcomes
    · have own : s.put key text = .error (.cannotWrite (s.path key) e) := by
        rw [DirectoryRecords.put, if_pos stands, own]
      have other : t.put key text = .error (.cannotWrite (s.path key) e) := by
        rw [DirectoryRecords.put, directory, if_pos stands, other, path_congr paired.base]
      rw [own, other]
      exact .failed _
    · have own : s.put key text = .ok { s with disk } := by
        rw [DirectoryRecords.put, if_pos stands, own]
      have other : t.put key text = .ok { t with disk := disk' } := by
        rw [DirectoryRecords.put, directory, if_pos stands, other]
      obtain ⟨_, touched⟩ := changesOnly_of_put own
      rw [own, other]
      exact .made ⟨paired.base, touched.locate_iff.mpr paired.led, only⟩
  · rw [DirectoryRecords.put, DirectoryRecords.put, directory, if_neg stands, if_neg stands,
      paired.base]
    exact .failed _

/-- A record in which the disks do not differ is removed from both stores. -/
theorem delete (paired : Paired origin hidden s t) (named : s.base.text.isEmpty = false)
    (seen : ¬ hidden (origin ++ [fileName key])) (there : s.contains key = true) :
    ∃ s' t', s.delete key = .ok s' ∧ t.delete key = .ok t' ∧ Paired origin hidden s' t' := by
  obtain ⟨place, stands⟩ := standsAt_of_contains named there
  obtain rfl := Except.ok.inj (paired.led.symm.trans stands.located)
  obtain ⟨fits, content, present⟩ := (contains_iff stands).mp there
  have still := standsAt_of_changesOnly paired.base paired.only stands
  have present' := (paired.only.elsewhere _ seen).trans present
  have fits' : Fits t.base key := paired.base ▸ fits
  have free : s.disk.node? (origin ++ [fileName key]) ≠ some .directory := by simp [present]
  have touched := Disk.ChangesOnly.erase_file free
  exact ⟨_, _, delete_file stands fits present, delete_file still fits' present', paired.base,
    touched.locate_iff.mpr paired.led, paired.only.erase _⟩

end Paired

end Sketchbook.DirectoryRecords
