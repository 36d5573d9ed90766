import Sketchbook.Proofs.Disk.Files
import Sketchbook.Proofs.Disk.Paths
import Sketchbook.Proofs.Text.PercentEncoding
import Sketchbook.Store.Directory

/-!
Records in a directory, seen as the files that stand in it. Different keys have different names
(`fileName_injective`), a name gives its key back (`keyOf?_fileName`), and each operation on a key comes
to one on the file of that name in the directory.
-/
namespace Sketchbook.DirectoryRecords

/-! ### Names of files -/

theorem toList_fileName (key : String) :
    (fileName key).toList = (Text.percentEncode key).toList ++ ['.', 'j', 's', 'o', 'n'] := by
  simp [fileName, ending, String.toList_append]

theorem fileName_injective : Function.Injective fileName := by
  intro one other same
  have chars := congrArg String.toList same
  rw [toList_fileName, toList_fileName, List.append_cancel_right_eq, String.toList_inj] at chars
  exact Text.percentEncode_injective chars

theorem isName_fileName (key : String) : Path.IsName (fileName key) := by
  have chars := toList_fileName key
  have encoded {c : Char} (plain : Text.isEncoded c = false) : c ∉ (Text.percentEncode key).toList :=
    fun member => by
      rw [Text.mem_percentEncode member] at plain
      cases plain
  have longer {text : String} (short : text.toList.length < 5) : fileName key ≠ text := by
    rintro rfl
    rw [chars, List.length_append] at short
    exact absurd short (by simp)
  exact {
    notEmpty := by simp [chars]
    noSlash := by
      rw [chars, List.mem_append]
      exact not_or.mpr ⟨encoded (by decide), by decide⟩
    noNul := by
      rw [chars, List.mem_append]
      exact not_or.mpr ⟨encoded (by decide), by decide⟩
    notDot := longer (by decide)
    notDots := longer (by decide) }

theorem utf8ByteSize_fileName (key : String) :
    (fileName key).utf8ByteSize ≤ 3 * key.utf8ByteSize + 5 := by
  have encoded := (Text.utf8ByteSize_percentEncode key).2
  have rest : ("." ++ ending).utf8ByteSize = 5 := by decide
  rw [fileName, String.append_assoc, String.utf8ByteSize_append, rest]
  omega

/-- The name of a key's file is split into the encoded key and the ending, unless the key is empty. -/
theorem splitEnding_fileName {key : String} (notEmpty : key ≠ "") :
    Path.splitEnding (fileName key) = (Text.percentEncode key, some ending) := by
  have size := (Text.utf8ByteSize_percentEncode key).1
  have encoded : (Text.percentEncode key).toList ≠ [] := by
    intro empty
    rw [String.toList_eq_nil_iff] at empty
    rw [empty] at size
    exact notEmpty (String.utf8ByteSize_eq_zero_iff.mp (Nat.le_zero.mp size))
  obtain ⟨c, rest, shape⟩ := List.exists_cons_of_ne_nil (List.reverse_ne_nil_iff.mpr encoded)
  have reversed : (fileName key).toList.reverse = 'n' :: 'o' :: 's' :: 'j' :: '.' :: c :: rest := by
    rw [toList_fileName, List.reverse_append, shape]
    rfl
  have back : String.ofList (c :: rest).reverse = Text.percentEncode key := by
    rw [← shape, List.reverse_reverse, String.ofList_toList]
  rw [Path.splitEnding, reversed, ← back]
  rfl

/-- The name of a key's file gives the key back, unless that is empty. -/
theorem keyOf?_fileName (key : String) :
    keyOf? (fileName key) = if key = "" then none else some key := by
  split
  · next blank =>
    rw [blank]
    decide
  · next notEmpty =>
    rw [keyOf?, splitEnding_fileName notEmpty]
    exact (if_pos rfl).trans (Text.percentDecode?_percentEncode key)

/-! ### The directory and the files in it -/

/-- The directory of a store stands at a location. -/
structure StandsAt (s : DirectoryRecords) (origin : Location) : Prop where
  located : s.disk.locate s.base = .ok origin
  there : s.disk.node? origin = some .directory

/-- The directory of a store stands where it stood as long as the directories of the disk stay. -/
theorem StandsAt.of_stay {s : DirectoryRecords} {origin : Location} {disk : Disk}
    (stands : s.StandsAt origin) (stay : s.disk.DirectoriesStay disk)
    (root : disk.workDir = s.disk.workDir) : StandsAt { s with disk } origin :=
  ⟨Disk.locate_of_stay stay root stands.located, stay origin stands.there⟩

/-- The name of a key's file is not too long, nor is its path. -/
def Fits (base : Path) (key : String) : Prop :=
  (fileName key).utf8ByteSize ≤ Disk.nameLimit ∧
    (base.join (fileName key)).text.utf8ByteSize ≤ Disk.pathLimit

variable {s : DirectoryRecords} {origin : Location} {key text : String}

/-- Whether a path can be located does not depend on the files of the store. -/
theorem locate_path (stands : s.StandsAt origin) :
    s.disk.locate (s.path key) =
      if Disk.pathLimit < (s.base.join (fileName key)).text.utf8ByteSize then .error .nameTooLong
      else if Disk.nameLimit < (fileName key).utf8ByteSize then .error .nameTooLong
      else .ok (origin ++ [fileName key]) := by
  have named := isName_fileName key
  rw [path, Disk.locate_join named stands.located, Disk.step_directory named stands.there]

theorem locate_fits (stands : s.StandsAt origin) (fits : Fits s.base key) :
    s.disk.locate (s.path key) = .ok (origin ++ [fileName key]) := by
  rw [locate_path stands, if_neg (Nat.not_lt.mpr fits.2), if_neg (Nat.not_lt.mpr fits.1)]

theorem fits_of_locate {place : Location} (stands : s.StandsAt origin)
    (led : s.disk.locate (s.path key) = .ok place) :
    Fits s.base key ∧ place = origin ++ [fileName key] := by
  rw [locate_path stands] at led
  split at led
  · cases led
  · next short =>
    split at led
    · cases led
    · next fits => exact ⟨⟨Nat.le_of_not_lt fits, Nat.le_of_not_lt short⟩, (Except.ok.inj led).symm⟩

theorem endsInSlash_path (s : DirectoryRecords) (key : String) : (s.path key).endsInSlash = false :=
  Path.endsInSlash_join (isName_fileName key)

theorem lookup_none (stands : s.StandsAt origin) (fits : Fits s.base key)
    (absent : s.disk.node? (origin ++ [fileName key]) = none) :
    s.disk.lookup (s.path key) = .error .notFound := by
  simp [Disk.lookup, locate_fits stands fits, absent, bind, Except.bind]

theorem lookup_some (stands : s.StandsAt origin) (fits : Fits s.base key)
    (present : s.disk.node? (origin ++ [fileName key]) = some node) :
    s.disk.lookup (s.path key) = .ok node := by
  cases node <;> simp [Disk.lookup, locate_fits stands fits, present, endsInSlash_path s key, bind,
    Except.bind]

/-! ### What the operations come to -/

theorem get_absent (stands : s.StandsAt origin) (fits : Fits s.base key)
    (absent : s.disk.node? (origin ++ [fileName key]) = none) : s.get key = .ok none := by
  have missing : s.disk.readText (s.path key) = .error .notFound := by
    rw [Disk.readText, Disk.readBytes, lookup_none stands fits absent]
    rfl
  unfold get
  rw [missing]

theorem get_file (stands : s.StandsAt origin) (fits : Fits s.base key)
    (present : s.disk.node? (origin ++ [fileName key]) = some (.file text.toUTF8)) :
    s.get key = .ok (some text) := by
  have read : s.disk.readText (s.path key) = .ok text := by
    rw [Disk.readText, Disk.readBytes, lookup_some stands fits present]
    exact decodeText_toUTF8 text
  unfold get
  rw [read]

theorem put_file (stands : s.StandsAt origin) (fits : Fits s.base key)
    (free : s.disk.node? (origin ++ [fileName key]) ≠ some .directory) :
    s.put key text = .ok { s with disk := { s.disk with
      nodes := s.disk.nodes.insert (origin ++ [fileName key]) (.file text.toUTF8) } } := by
  have directory : s.disk.isDirectory s.base = true :=
    Disk.isDirectory_iff.mpr ⟨origin, stands.located, stands.there⟩
  have written : s.disk.write (s.path key) text.toUTF8 = .ok { s.disk with
      nodes := s.disk.nodes.insert (origin ++ [fileName key]) (.file text.toUTF8) } :=
    Disk.write_eq_ok.mpr ⟨_, locate_fits stands fits, free, endsInSlash_path s key, rfl⟩
  rw [put, if_pos directory, written]

/-- A text is put where the directory stands, the names fit and no directory stands in the way. -/
theorem put_eq_ok {changed : DirectoryRecords} : s.put key text = .ok changed ↔
    ∃ origin, s.StandsAt origin ∧ Fits s.base key ∧
      s.disk.node? (origin ++ [fileName key]) ≠ some .directory ∧
      changed = { s with disk := { s.disk with
        nodes := s.disk.nodes.insert (origin ++ [fileName key]) (.file text.toUTF8) } } := by
  constructor
  · intro put
    unfold DirectoryRecords.put at put
    split at put
    · next directory =>
      obtain ⟨origin, located, there⟩ := Disk.isDirectory_iff.mp directory
      have stands : s.StandsAt origin := ⟨located, there⟩
      split at put
      · next disk written =>
        obtain ⟨place, found, free, _, rfl⟩ := Disk.write_eq_ok.mp written
        obtain ⟨fits, rfl⟩ := fits_of_locate stands found
        exact ⟨origin, stands, fits, free, (Except.ok.inj put).symm⟩
      · cases put
    · cases put
  · rintro ⟨origin, stands, fits, free, rfl⟩
    exact put_file stands fits free

/-- A text can be put under a key: the directory of the store stands, the path of the file is not too
long, and no directory stands in its place. -/
def Takes (s : DirectoryRecords) (key : String) : Prop :=
  ∃ origin, s.StandsAt origin ∧ Fits s.base key ∧
    s.disk.node? (origin ++ [fileName key]) ≠ some .directory

theorem put_succeeds_iff : (∃ changed, s.put key text = .ok changed) ↔ s.Takes key := by
  constructor
  · rintro ⟨changed, put⟩
    obtain ⟨origin, stands, fits, free, _⟩ := put_eq_ok.mp put
    exact ⟨origin, stands, fits, free⟩
  · rintro ⟨origin, stands, fits, free⟩
    exact ⟨_, put_file stands fits free⟩

theorem delete_absent (stands : s.StandsAt origin) (fits : Fits s.base key)
    (absent : s.disk.node? (origin ++ [fileName key]) = none) : s.delete key = .ok s := by
  have missing : s.disk.remove (s.path key) = .error .notFound := by
    rw [Disk.remove, lookup_none stands fits absent]
    rfl
  unfold delete
  rw [missing]

theorem delete_file (stands : s.StandsAt origin) (fits : Fits s.base key)
    (present : s.disk.node? (origin ++ [fileName key]) = some (.file content)) :
    s.delete key = .ok { s with disk := { s.disk with
      nodes := s.disk.nodes.erase (origin ++ [fileName key]) } } := by
  have removed : s.disk.remove (s.path key) = .ok { s.disk with
      nodes := s.disk.nodes.erase (origin ++ [fileName key]) } := by
    simp [Disk.remove, lookup_some stands fits present, locate_fits stands fits, bind, Except.bind]
  unfold delete
  rw [removed]

/-- The keys of a store are those that the names in its directory stand for. -/
theorem keys_directory (stands : s.StandsAt origin) :
    ∃ names, s.disk.list s.base = .ok names ∧ names.Nodup ∧
      (∀ name, name ∈ names ↔ (s.disk.node? (origin ++ [name])).isSome = true) ∧
      s.keys = .ok (names.filterMap keyOf?) := by
  obtain ⟨names, listed, distinct, member⟩ := Disk.list_directory stands.located stands.there
  have there : s.disk.has s.base = true := by
    rw [Disk.has, Disk.lookup_directory stands.located stands.there]
    rfl
  refine ⟨names, listed, distinct, member, ?_⟩
  unfold keys
  rw [if_pos there, listed]

theorem contains_absent (stands : s.StandsAt origin) (fits : Fits s.base key)
    (absent : s.disk.node? (origin ++ [fileName key]) = none) : s.contains key = false := by
  rw [contains, Disk.isFile, lookup_none stands fits absent]

theorem contains_file (stands : s.StandsAt origin) (fits : Fits s.base key)
    (present : s.disk.node? (origin ++ [fileName key]) = some (.file content)) :
    s.contains key = true := by
  rw [contains, Disk.isFile, lookup_some stands fits present]

/-! ### What a text that was put comes to -/

/-- A text stands in the file for a key. -/
structure HoldsText (s : DirectoryRecords) (key text : String) (origin : Location) : Prop where
  stands : s.StandsAt origin
  fits : Fits s.base key
  present : s.disk.node? (origin ++ [fileName key]) = some (.file text.toUTF8)

theorem holdsText_of_put {changed : DirectoryRecords} (put : s.put key text = .ok changed) :
    ∃ origin, changed.HoldsText key text origin := by
  obtain ⟨origin, stands, fits, free, rfl⟩ := put_eq_ok.mp put
  refine ⟨origin, ?_, fits, ?_⟩
  · exact stands.of_stay (Disk.directoriesStay_insert (.file text.toUTF8) free) rfl
  · rw [Disk.node?_insert, if_neg (by simp), if_pos rfl]

namespace HoldsText

theorem readBytes (holds : s.HoldsText key text origin) :
    s.disk.readBytes (s.path key) = .ok text.toUTF8 := by
  rw [Disk.readBytes, lookup_some holds.stands holds.fits holds.present]
  rfl

theorem get (holds : s.HoldsText key text origin) : s.get key = .ok (some text) :=
  get_file holds.stands holds.fits holds.present

theorem contains (holds : s.HoldsText key text origin) : s.contains key = true :=
  contains_file holds.stands holds.fits holds.present

/-- A text that is there is put without effect. -/
theorem put (holds : s.HoldsText key text origin) : s.put key text = .ok s := by
  have there : s.disk.nodes.get? (origin ++ [fileName key]) = some (.file text.toUTF8) := by
    have present := holds.present
    rwa [Disk.node?, if_neg (by simp)] at present
  have free : s.disk.node? (origin ++ [fileName key]) ≠ some .directory := by
    rw [holds.present]
    simp
  rw [put_file holds.stands holds.fits free, SortedMap.insert_of_get? there]

end HoldsText

end Sketchbook.DirectoryRecords
