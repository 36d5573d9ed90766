import Mathlib.Data.List.Basic
import Sketchbook.Proofs.Disk.Paths
import Sketchbook.Proofs.Failing
import Sketchbook.Text.ByteSize

/-!
Files of a disk. A path leads to the same place as long as the directories stay (`locate_of_stay`), so
what was written is what is read (`readText_of_write`), and a directory lists just the names at which
something stands (`list_directory`).
-/
namespace Sketchbook

@[simp] theorem decodeText_toUTF8 (text : String) : decodeText text.toUTF8 = .ok text := by
  rw [decodeText, Text.fromUTF8?_toUTF8]

namespace Disk

/-- The disk with something else standing at a location. -/
theorem node?_insert (d : Disk) (place other : Location) (node : Node) :
    ({ d with nodes := d.nodes.insert place node } : Disk).node? other =
      if other = [] then some .directory else if other = place then some node else d.node? other := by
  unfold node?
  split
  · rfl
  · rw [SortedMap.get?_insert]

/-- The disk with nothing standing at a location. -/
theorem node?_erase (d : Disk) (place other : Location) :
    ({ d with nodes := d.nodes.erase place } : Disk).node? other =
      if other = [] then some .directory else if other = place then none else d.node? other := by
  unfold node?
  split
  · rfl
  · rw [SortedMap.get?_erase]

/-! ### Paths lead through directories -/

section Directories

variable {d changed : Disk} {origin reached : Location}

/-- Every directory of the one disk is one of the other. -/
def DirectoriesStay (d changed : Disk) : Prop :=
  ∀ place, d.node? place = some .directory → changed.node? place = some .directory

theorem directoriesStay_insert {place : Location} (node : Node)
    (free : d.node? place ≠ some .directory) :
    DirectoriesStay d { d with nodes := d.nodes.insert place node } := by
  intro other there
  have apart : other ≠ place := fun same => free (same ▸ there)
  rw [node?_insert, there]
  simp [apart]

theorem directoriesStay_erase {place : Location} (free : d.node? place ≠ some .directory) :
    DirectoriesStay d { d with nodes := d.nodes.erase place } := by
  intro other there
  have apart : other ≠ place := fun same => free (same ▸ there)
  rw [node?_erase, there]
  simp [apart]

private theorem step_of_stay {name : String} (stay : DirectoriesStay d changed)
    (led : d.step origin name = .ok reached) : changed.step origin name = .ok reached := by
  have through := directory_of_step led
  unfold step at led ⊢
  rw [through] at led
  rw [stay origin through]
  exact led

private theorem walk_of_stay {names : List String} (stay : DirectoriesStay d changed)
    (led : names.foldlM d.step origin = .ok reached) :
    names.foldlM changed.step origin = .ok reached := by
  induction names generalizing origin with
  | nil => exact led
  | cons name rest ih =>
    rw [List.foldlM_cons] at led ⊢
    cases next : d.step origin name with
    | error e => rw [next] at led; cases led
    | ok further =>
      rw [next] at led
      rw [step_of_stay stay next]
      exact ih led

/-- A path leads through directories only, so it leads to the same place while these stay. -/
theorem locate_of_stay {p : Path} (stay : DirectoriesStay d changed)
    (root : changed.workDir = d.workDir) (found : d.locate p = .ok reached) :
    changed.locate p = .ok reached := by
  obtain ⟨there, clean, short, walked⟩ := locate_eq_ok.mp found
  refine locate_eq_ok.mpr ⟨there, clean, short, ?_⟩
  rw [root]
  exact walk_of_stay stay walked

end Directories

/-! ### Files -/

/-- A file can be written where no directory stands, and it then stands there. -/
theorem write_eq_ok {d changed : Disk} {p : Path} {content : ByteArray} :
    d.write p content = .ok changed ↔ ∃ place, d.locate p = .ok place ∧
      d.node? place ≠ some .directory ∧ p.endsInSlash = false ∧
      changed = { d with nodes := d.nodes.insert place (.file content) } := by
  cases found : d.locate p with
  | error e => simp [write, found, bind, Except.bind]
  | ok place =>
    cases stands : d.node? place with
    | none =>
      cases slash : p.endsInSlash <;>
        simp [write, found, stands, slash, bind, Except.bind, eq_comm (a := changed)]
    | some node =>
      cases node with
      | directory => simp [write, found, stands, bind, Except.bind]
      | file old =>
        cases slash : p.endsInSlash <;>
          simp [write, found, stands, slash, bind, Except.bind, eq_comm (a := changed)]

/-- What was written to a file is read from it. -/
theorem readBytes_of_write {d changed : Disk} {p : Path} {content : ByteArray}
    (written : d.write p content = .ok changed) : changed.readBytes p = .ok content := by
  obtain ⟨place, found, free, slash, rfl⟩ := write_eq_ok.mp written
  have there := locate_of_stay (directoriesStay_insert (.file content) free) rfl found
  have inner : place ≠ [] := fun root => free (by rw [root]; rfl)
  have stands := node?_insert d place place (.file content)
  rw [if_neg inner, if_pos rfl] at stands
  simp [readBytes, lookup, there, stands, slash, bind, Except.bind]

theorem readText_of_write {d changed : Disk} {p : Path} {text : String}
    (written : d.write p text.toUTF8 = .ok changed) : changed.readText p = .ok text := by
  rw [readText, readBytes_of_write written]
  exact decodeText_toUTF8 text

/-! ### Directories that are made -/

/-- What stands on the one disk also stands on the other. -/
structure Grows (d changed : Disk) : Prop where
  workDir : changed.workDir = d.workDir
  stays : ∀ place node, d.node? place = some node → changed.node? place = some node

theorem Grows.refl (d : Disk) : Grows d d := ⟨rfl, fun _ _ => id⟩

theorem Grows.trans {d middle changed : Disk} (first : Grows d middle)
    (second : Grows middle changed) : Grows d changed where
  workDir := second.workDir.trans first.workDir
  stays place node there := second.stays place node (first.stays place node there)

private theorem grows_createDirectory {d changed : Disk} {p : Path}
    (made : d.createDirectory p = .ok changed) : Grows d changed := by
  obtain ⟨place, _, put⟩ := bind_eq_ok.mp made
  cases free : d.node? place with
  | some node =>
    rw [free] at put
    cases put
  | none =>
    rw [free] at put
    obtain rfl := Except.ok.inj put
    refine ⟨rfl, fun other node there => ?_⟩
    have apart : other ≠ place := by
      rintro rfl
      cases free.symm.trans there
    rw [node?_insert, if_neg apart, there]
    split
    · next root => rw [root] at there; exact there
    · rfl

/-- What each directory that is made does to a disk, all that are made on the way do together. -/
theorem relates_createChain {R : Disk → Disk → Prop} (refl : ∀ d, R d d)
    (trans : ∀ {d middle changed}, R d middle → R middle changed → R d changed)
    (single : ∀ {d changed p}, d.createDirectory p = .ok changed → R d changed) (d : Disk)
    (paths : List Path) : R d (d.createChain paths).2 := by
  induction paths with
  | nil => exact refl d
  | cons p outer ih =>
    rw [createChain]
    split
    · exact refl d
    split
    · next made => exact single made
    · split
      · next failed => rw [failed] at ih; exact ih
      · next around =>
        rw [around] at ih
        split
        · next made => exact trans ih (single made)
        · split <;> exact ih
    · split <;> exact refl d

/-- Nothing is lost when directories are made, whether or not that fails on the way. -/
theorem grows_createDirectories (d : Disk) (p : Path) : Grows d (d.createDirectories p).2 :=
  relates_createChain Grows.refl Grows.trans grows_createDirectory d p.ancestors

/-- What can be read is a file, and the path leads to it. -/
theorem file_of_readText {d : Disk} {p : Path} {text : String} (read : d.readText p = .ok text) :
    ∃ place content, d.locate p = .ok place ∧ d.node? place = some (.file content) ∧
      p.endsInSlash = false := by
  obtain ⟨bytes, isFile, _⟩ := bind_eq_ok.mp read
  obtain ⟨node, found, _⟩ := bind_eq_ok.mp isFile
  obtain ⟨place, led, _⟩ := bind_eq_ok.mp found
  cases stands : d.node? place with
  | none => simp [readText, readBytes, lookup, led, stands, bind, Except.bind] at read
  | some node =>
    cases node with
    | directory => simp [readText, readBytes, lookup, led, stands, bind, Except.bind] at read
    | file content =>
      refine ⟨place, content, led, stands, ?_⟩
      cases slash : p.endsInSlash with
      | false => rfl
      | true => simp [readText, readBytes, lookup, led, stands, slash, bind, Except.bind] at read

theorem isFile_of_readText {d : Disk} {p : Path} {text : String} (read : d.readText p = .ok text) :
    d.isFile p = true := by
  obtain ⟨place, content, led, stands, slash⟩ := file_of_readText read
  simp [isFile, lookup, led, stands, slash, bind, Except.bind]

/-- What can be read can be written. -/
theorem write_of_readText {d : Disk} {p : Path} {text : String} (read : d.readText p = .ok text)
    (content : ByteArray) : ∃ changed, d.write p content = .ok changed := by
  obtain ⟨place, old, led, stands, slash⟩ := file_of_readText read
  exact ⟨_, write_eq_ok.mpr ⟨place, led, by simp [stands], slash, rfl⟩⟩

/-- Nothing can be written at a path. -/
def Unwritable (d : Disk) (p : Path) : Prop := ∀ content, ∃ e, d.write p content = .error e

/-- Whether a path can be written does not depend on what is written. -/
theorem unwritable_of_error {d : Disk} {p : Path} {content : ByteArray} {e : DiskError}
    (refused : d.write p content = .error e) : d.Unwritable p := by
  intro other
  cases written : d.write p other with
  | error e => exact ⟨e, rfl⟩
  | ok changed =>
    obtain ⟨place, led, free, slash, _⟩ := write_eq_ok.mp written
    cases refused.symm.trans (write_eq_ok.mpr ⟨place, led, free, slash, rfl⟩)

/-- What cannot be written cannot be read. -/
theorem Unwritable.readText_ne {d : Disk} {p : Path} (unwritable : d.Unwritable p) (text : String) :
    d.readText p ≠ .ok text := by
  intro read
  obtain ⟨changed, written⟩ := write_of_readText read .empty
  obtain ⟨e, refused⟩ := unwritable .empty
  cases refused.symm.trans written

section Growing

variable {d changed : Disk} {origin place : Location} {p : Path}

/-- Where something stands, the same is read as before. -/
private theorem readText_eq_of_grows {node : Node} (grows : Grows d changed)
    (led : d.locate p = .ok place) (stands : d.node? place = some node) :
    changed.readText p = d.readText p := by
  have directories : DirectoriesStay d changed := fun place => grows.stays place .directory
  have leads := locate_of_stay directories grows.workDir led
  have still := grows.stays place node stands
  simp only [readText, readBytes, lookup, led, leads, stands, still, bind, Except.bind]

/-- A text that could be read can still be read. -/
theorem readText_of_grows {text : String} (grows : Grows d changed)
    (read : d.readText p = .ok text) : changed.readText p = .ok text := by
  obtain ⟨place, content, led, stands, _⟩ := file_of_readText read
  rw [readText_eq_of_grows grows led stands, read]

private theorem step_error_of_grows {name : String} {e : DiskError} (grows : Grows d changed)
    (refused : d.step origin name = .error e) (other : e ≠ .notFound) :
    changed.step origin name = .error e := by
  unfold step at refused ⊢
  cases stands : d.node? origin with
  | none =>
    rw [stands] at refused
    exact absurd (Except.error.inj refused).symm other
  | some node =>
    rw [stands] at refused
    rw [grows.stays origin node stands]
    exact refused

private theorem walk_error_of_grows {names : List String} {e : DiskError} (grows : Grows d changed)
    (refused : names.foldlM d.step origin = .error e) (other : e ≠ .notFound) :
    names.foldlM changed.step origin = .error e := by
  have directories : DirectoriesStay d changed := fun place => grows.stays place .directory
  induction names generalizing origin with
  | nil => cases refused
  | cons name rest ih =>
    rw [List.foldlM_cons] at refused ⊢
    cases next : d.step origin name with
    | error found =>
      rw [next] at refused
      obtain rfl := Except.error.inj refused
      rw [step_error_of_grows grows next other]
      rfl
    | ok further =>
      rw [next] at refused
      rw [step_of_stay directories next]
      exact ih refused

private theorem locate_error_of_grows {e : DiskError} (grows : Grows d changed)
    (refused : d.locate p = .error e) (other : e ≠ .notFound) : changed.locate p = .error e := by
  unfold locate at refused ⊢
  split at refused
  · next empty => rw [if_pos empty, refused]
  split at refused
  · next named nul => rw [if_neg named, if_pos nul, refused]
  split at refused
  · next named clean long => rw [if_neg named, if_neg clean, if_pos long, refused]
  · next named clean short =>
    rw [if_neg named, if_neg clean, if_neg short, grows.workDir]
    exact walk_error_of_grows grows refused other

/-- A file that could not be read still cannot be, for the same reason, unless it was missing. -/
theorem readText_error_of_grows {e : DiskError} (grows : Grows d changed)
    (refused : d.readText p = .error e) (other : e ≠ .notFound) : changed.readText p = .error e := by
  cases led : d.locate p with
  | error found =>
    have same : d.readText p = .error found := by
      simp only [readText, readBytes, lookup, led, bind, Except.bind]
    obtain rfl := Except.error.inj (same.symm.trans refused)
    simp only [readText, readBytes, lookup, locate_error_of_grows grows led other, bind, Except.bind]
  | ok place =>
    cases stands : d.node? place with
    | none =>
      have missing : d.readText p = .error .notFound := by
        simp only [readText, readBytes, lookup, led, stands, bind, Except.bind]
      exact absurd (Except.error.inj (refused.symm.trans missing)) other
    | some node => rw [readText_eq_of_grows grows led stands, refused]

/-- A file that is missing was missing before. -/
theorem readText_notFound_of_grows (grows : Grows d changed)
    (missing : changed.readText p = .error .notFound) : d.readText p = .error .notFound := by
  cases read : d.readText p with
  | ok text => cases missing.symm.trans (readText_of_grows grows read)
  | error e =>
    by_cases other : e = .notFound
    · rw [other]
    · exact (missing.symm.trans (readText_error_of_grows grows read other)).symm

end Growing

/-! ### Listings -/

/-- A directory lists each name at which something stands in it, and no other. -/
theorem list_directory {d : Disk} {p : Path} {place : Location} (found : d.locate p = .ok place)
    (there : d.node? place = some .directory) :
    ∃ names, d.list p = .ok names ∧ names.Nodup ∧
      ∀ name, name ∈ names ↔ (d.node? (place ++ [name])).isSome = true := by
  simp only [list, lookup, found, there, bind, Except.bind]
  refine ⟨_, rfl, ?_, ?_⟩
  · refine List.Pairwise.filterMap _ ?_ d.nodes.keys_nodup
    intro one other apart name listed name' listed' same
    split at listed
    · next last =>
      split at listed'
      · next last' =>
        simp only [Option.ite_none_right_eq_some, Option.some.injEq] at listed listed'
        refine apart ?_
        rw [← List.dropLast_append_getLast? _ last, ← List.dropLast_append_getLast? _ last',
          listed.1, listed'.1, listed.2, listed'.2, same]
      · cases listed'
    · cases listed
  · intro name
    have stands : (d.node? (place ++ [name])).isSome = true ↔ place ++ [name] ∈ d.nodes.keys := by
      rw [SortedMap.mem_keys, node?, if_neg (by simp)]
    rw [stands, List.mem_filterMap]
    constructor
    · rintro ⟨other, member, listed⟩
      split at listed
      · next last =>
        simp only [Option.ite_none_right_eq_some, Option.some.injEq] at listed
        rw [← listed.1, ← listed.2, List.dropLast_append_getLast? _ last]
        exact member
      · cases listed
    · intro member
      exact ⟨place ++ [name], member, by simp⟩

end Disk

end Sketchbook
