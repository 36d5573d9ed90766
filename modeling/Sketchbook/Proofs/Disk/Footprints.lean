import Sketchbook.Proofs.Disk.Files

/-!
Where two disks differ. A change that touches only files at some places leaves every path where it led
(`ChangesOnly.locate_iff`) and every other file as it was (`ChangesOnly.lookup_eq`), and where two disks
differ does not grow when both are changed alike (`ChangesOnly.write`). A change that only adds
directories, and writes files at some places, leaves all that could be found (`Adds.has`); making
directories is one (`adds_createDirectories`), and then they are there (`isDirectory_of_made`).
-/
namespace Sketchbook.Disk

variable {d middle changed : Disk} {touched : Location → Prop} {p : Path} {place : Location}

/-- Nothing differs between two disks but the files at some places. -/
structure ChangesOnly (d changed : Disk) (touched : Location → Prop) : Prop where
  workDir : changed.workDir = d.workDir
  directories : ∀ place, changed.node? place = some .directory ↔ d.node? place = some .directory
  elsewhere : ∀ place, ¬ touched place → changed.node? place = d.node? place

namespace ChangesOnly

theorem refl (d : Disk) (touched : Location → Prop) : ChangesOnly d d touched :=
  ⟨rfl, fun _ => Iff.rfl, fun _ _ => rfl⟩

theorem trans (first : ChangesOnly d middle touched) (second : ChangesOnly middle changed touched) :
    ChangesOnly d changed touched where
  workDir := second.workDir.trans first.workDir
  directories place := (second.directories place).trans (first.directories place)
  elsewhere place apart := (second.elsewhere place apart).trans (first.elsewhere place apart)

theorem mono {wider : Location → Prop} (only : ChangesOnly d changed touched)
    (inside : ∀ place, touched place → wider place) : ChangesOnly d changed wider where
  workDir := only.workDir
  directories := only.directories
  elsewhere place apart := only.elsewhere place fun member => apart (inside place member)

/-- Something else stands at one place, but no directory did and none does. -/
private theorem of_node {node : Option Node} (root : changed.workDir = d.workDir)
    (stands : ∀ other, changed.node? other =
      if other = [] then some .directory else if other = place then node else d.node? other)
    (free : d.node? place ≠ some .directory) (still : node ≠ some .directory) :
    ChangesOnly d changed (· = place) where
  workDir := root
  directories other := by
    rw [stands]
    by_cases top : other = []
    · rw [top]
      exact Iff.rfl
    · rw [if_neg top]
      by_cases same : other = place
      · rw [if_pos same, same]
        exact ⟨fun now => absurd now still, fun before => absurd before free⟩
      · rw [if_neg same]
  elsewhere other apart := by
    rw [stands, if_neg apart]
    by_cases top : other = []
    · rw [top]
      rfl
    · rw [if_neg top]

/-- A file that is written where no directory stands. -/
theorem insert_file (free : d.node? place ≠ some .directory) (content : ByteArray) :
    ChangesOnly d { d with nodes := d.nodes.insert place (.file content) } (· = place) :=
  of_node rfl (fun other => node?_insert d place other (.file content)) free (by simp)

/-- A file that is removed. -/
theorem erase_file (free : d.node? place ≠ some .directory) :
    ChangesOnly d { d with nodes := d.nodes.erase place } (· = place) :=
  of_node rfl (fun other => node?_erase d place other) free (by simp)

/-- Every path leads where it led. -/
theorem locate_iff (only : ChangesOnly d changed touched) :
    changed.locate p = .ok place ↔ d.locate p = .ok place := by
  constructor
  · intro found
    exact locate_of_stay (fun place => (only.directories place).mp) only.workDir.symm found
  · intro found
    exact locate_of_stay (fun place => (only.directories place).mpr) only.workDir found

/-- A path that leads to no place which is touched finds what it found. -/
theorem lookup_eq (only : ChangesOnly d changed touched) (led : d.locate p = .ok place)
    (untouched : ¬ touched place) : changed.lookup p = d.lookup p := by
  have leads := only.locate_iff.mpr led
  simp only [lookup, led, leads, only.elsewhere place untouched, bind, Except.bind]

theorem readText_eq (only : ChangesOnly d changed touched) (led : d.locate p = .ok place)
    (untouched : ¬ touched place) : changed.readText p = d.readText p := by
  simp only [readText, readBytes, only.lookup_eq led untouched]

/-- Where no place is touched, the same texts can be read. -/
theorem readText_eq_ok_iff (only : ChangesOnly d changed touched)
    (untouched : ∀ place, d.locate p = .ok place → ¬ touched place) (text : String) :
    changed.readText p = .ok text ↔ d.readText p = .ok text := by
  constructor
  · intro read
    obtain ⟨place, _, led, _⟩ := file_of_readText read
    have led := only.locate_iff.mp led
    rw [← only.readText_eq led (untouched place led), read]
  · intro read
    obtain ⟨place, _, led, _⟩ := file_of_readText read
    rw [only.readText_eq led (untouched place led), read]

/-! ### Two disks that are changed alike -/

/-- What stands at one place is made the same on both disks. -/
private theorem of_nodes {d' changed' : Disk} {node : Option Node}
    (only : ChangesOnly d changed touched) (root : d'.workDir = d.workDir)
    (root' : changed'.workDir = changed.workDir)
    (stands : ∀ other, d'.node? other =
      if other = [] then some .directory else if other = place then node else d.node? other)
    (stands' : ∀ other, changed'.node? other =
      if other = [] then some .directory else if other = place then node else changed.node? other) :
    ChangesOnly d' changed' touched where
  workDir := by rw [root', root, only.workDir]
  directories other := by
    rw [stands, stands']
    split
    · exact Iff.rfl
    · split
      · exact Iff.rfl
      · exact only.directories other
  elsewhere other apart := by rw [stands, stands', only.elsewhere other apart]

theorem insert (only : ChangesOnly d changed touched) (place : Location) (node : Node) :
    ChangesOnly { d with nodes := d.nodes.insert place node }
      { changed with nodes := changed.nodes.insert place node } touched :=
  only.of_nodes rfl rfl (fun other => node?_insert d place other node)
    fun other => node?_insert changed place other node

theorem erase (only : ChangesOnly d changed touched) (place : Location) :
    ChangesOnly { d with nodes := d.nodes.erase place }
      { changed with nodes := changed.nodes.erase place } touched :=
  only.of_nodes rfl rfl (fun other => node?_erase d place other)
    fun other => node?_erase changed place other

/-- A file is written on both disks, or on neither for the same reason. -/
theorem write (only : ChangesOnly d changed touched) (led : d.locate p = .ok place)
    (content : ByteArray) :
    Agree (ChangesOnly · · touched) (d.write p content) (changed.write p content) := by
  have leads := only.locate_iff.mpr led
  by_cases slash : p.endsInSlash = true
  · have refused {disk : Disk} (led : disk.locate p = .ok place) :
        disk.write p content = .error .isDirectory := by
      simp only [Disk.write, led, slash, ↓reduceIte, bind, Except.bind]
      split <;> rfl
    rw [refused led, refused leads]
    exact .failed _
  · rw [Bool.not_eq_true] at slash
    by_cases directory : d.node? place = some .directory
    · have stands := (only.directories place).mpr directory
      simp only [Disk.write, led, leads, directory, stands, bind, Except.bind]
      exact .failed _
    · have free := mt (only.directories place).mp directory
      rw [write_eq_ok.mpr ⟨place, led, directory, slash, rfl⟩,
        write_eq_ok.mpr ⟨place, leads, free, slash, rfl⟩]
      exact .made (only.insert place (.file content))

end ChangesOnly

/-- Something is found by a path that leads somewhere. -/
theorem locate_of_has (there : d.has p = true) : ∃ place, d.locate p = .ok place := by
  cases led : d.locate p with
  | ok place => exact ⟨place, rfl⟩
  | error e => simp [has, lookup, led, bind, Except.bind, Except.isOk, Except.toBool] at there

theorem ChangesOnly.has_of_has (only : ChangesOnly d changed touched)
    (untouched : ∀ place, d.locate p = .ok place → ¬ touched place) (there : d.has p = true) :
    changed.has p = true := by
  obtain ⟨place, led⟩ := locate_of_has there
  rw [has, only.lookup_eq led (untouched place led)]
  exact there

/-! ### Changes that remove nothing -/

/-- Nothing is removed, and all that is new are directories, or files at some places. -/
structure Adds (d changed : Disk) (written : Location → Prop) : Prop where
  workDir : changed.workDir = d.workDir
  directories : DirectoriesStay d changed
  stays : ∀ place, (d.node? place).isSome = true → (changed.node? place).isSome = true
  files : ∀ place, ¬ written place → ∀ content,
    changed.node? place = some (.file content) ↔ d.node? place = some (.file content)

namespace Adds

variable {written : Location → Prop}

theorem refl (d : Disk) (written : Location → Prop) : Adds d d written :=
  ⟨rfl, fun _ => id, fun _ => id, fun _ _ _ => Iff.rfl⟩

theorem trans (first : Adds d middle written) (second : Adds middle changed written) :
    Adds d changed written where
  workDir := second.workDir.trans first.workDir
  directories place there := second.directories place (first.directories place there)
  stays place there := second.stays place (first.stays place there)
  files place apart content :=
    (second.files place apart content).trans (first.files place apart content)

theorem mono {wider : Location → Prop} (adds : Adds d changed written)
    (inside : ∀ place, written place → wider place) : Adds d changed wider where
  workDir := adds.workDir
  directories := adds.directories
  stays := adds.stays
  files place apart := adds.files place fun member => apart (inside place member)

theorem locate (adds : Adds d changed written) (led : d.locate p = .ok place) :
    changed.locate p = .ok place :=
  locate_of_stay adds.directories adds.workDir led

/-- A path that led to a directory still does. -/
theorem isDirectory (adds : Adds d changed written) (there : d.isDirectory p = true) :
    changed.isDirectory p = true := by
  obtain ⟨place, led, stands⟩ := isDirectory_iff.mp there
  exact isDirectory_iff.mpr ⟨place, adds.locate led, adds.directories place stands⟩

/-- A path by which something was found still finds something. -/
theorem has (adds : Adds d changed written) (there : d.has p = true) : changed.has p = true := by
  obtain ⟨place, led⟩ := locate_of_has there
  have leads := adds.locate led
  unfold Disk.has lookup at there ⊢
  rw [led] at there
  rw [leads]
  cases stands : d.node? place with
  | none => simp [stands, bind, Except.bind, Except.isOk, Except.toBool] at there
  | some node =>
    cases node with
    | directory => simp [adds.directories place stands, bind, Except.bind, Except.isOk, Except.toBool]
    | file content =>
      have slash : p.endsInSlash = false := by
        cases slash : p.endsInSlash with
        | false => rfl
        | true => simp [stands, slash, bind, Except.bind, Except.isOk, Except.toBool] at there
      obtain ⟨now, still⟩ := Option.isSome_iff_exists.mp (adds.stays place (by rw [stands]; rfl))
      cases now <;> simp [still, slash, bind, Except.bind, Except.isOk, Except.toBool]

end Adds

/-- A file that is written is all that is new. -/
theorem adds_write {content : ByteArray} (written : d.write p content = .ok changed) :
    Adds d changed fun place => changed.locate p = .ok place := by
  obtain ⟨place, led, free, _, rfl⟩ := write_eq_ok.mp written
  have only := ChangesOnly.insert_file free content
  have leads := only.locate_iff.mpr led
  refine ⟨rfl, fun other => (only.directories other).mpr, fun other there => ?_, ?_⟩
  · rw [node?_insert]
    split
    · rfl
    · split
      · rfl
      · exact there
  · intro other apart content
    have elsewhere : other ≠ place := fun same => apart (same ▸ leads)
    rw [only.elsewhere other elsewhere]

private theorem adds_createDirectory (made : d.createDirectory p = .ok changed) :
    Adds d changed fun _ => False := by
  obtain ⟨place, _, put⟩ := bind_eq_ok.mp made
  cases free : d.node? place with
  | some node =>
    rw [free] at put
    cases put
  | none =>
    rw [free] at put
    obtain rfl := Except.ok.inj put
    refine ⟨rfl, directoriesStay_insert .directory (by simp [free]), fun other there => ?_, ?_⟩
    · rw [node?_insert]
      split
      · rfl
      · split
        · rfl
        · exact there
    · intro other _ content
      rw [node?_insert]
      by_cases root : other = []
      · rw [if_pos root, root]
        exact ⟨nofun, nofun⟩
      · rw [if_neg root]
        by_cases same : other = place
        · rw [if_pos same, same, free]
          exact ⟨nofun, nofun⟩
        · rw [if_neg same]

/-- Directories that are made add no file, whether or not that fails on the way. -/
theorem adds_createDirectories (d : Disk) (p : Path) :
    Adds d (d.createDirectories p).2 fun _ => False :=
  relates_createChain (R := fun d changed => Adds d changed fun _ => False)
    (fun d => Adds.refl d _) Adds.trans adds_createDirectory d p.ancestors

/-! ### Directories that have been made -/

private theorem isDirectory_of_createDirectory (made : d.createDirectory p = .ok changed) :
    changed.isDirectory p = true := by
  have adds := adds_createDirectory made
  obtain ⟨place, led, put⟩ := bind_eq_ok.mp made
  refine isDirectory_iff.mpr ⟨place, adds.locate led, ?_⟩
  cases free : d.node? place with
  | some node =>
    rw [free] at put
    cases put
  | none =>
    rw [free] at put
    obtain rfl := Except.ok.inj put
    rw [node?_insert]
    split <;> simp

/-- A directory that was made, with those around it, is there. -/
theorem isDirectory_of_made (named : p.text.isEmpty = false)
    (made : d.createDirectories p = (.ok (), changed)) : changed.isDirectory p = true := by
  obtain ⟨outer, shape⟩ : ∃ outer, p.ancestors = p :: outer := by
    unfold Path.ancestors Path.ancestors.go
    cases p.parent? <;> exact ⟨_, rfl⟩
  rw [createDirectories, shape, createChain, if_neg (by simp [named])] at made
  split at made
  · next inner =>
    obtain ⟨_, rfl⟩ := Prod.mk.inj made
    exact isDirectory_of_createDirectory inner
  · split at made
    · cases made
    · split at made
      · next inner =>
        obtain ⟨_, rfl⟩ := Prod.mk.inj made
        exact isDirectory_of_createDirectory inner
      · split at made
        · next there =>
          obtain ⟨_, rfl⟩ := Prod.mk.inj made
          exact there
        · cases made
  · split at made
    · next there =>
      obtain ⟨_, rfl⟩ := Prod.mk.inj made
      exact there
    · cases made

end Sketchbook.Disk
