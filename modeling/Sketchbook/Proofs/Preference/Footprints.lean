import Sketchbook.Proofs.Disk.Footprints
import Sketchbook.Proofs.Preference.Durable

/-!
What a change of preferences does to the disk. It only adds directories and writes its own file
(`adds_perform`), and if the path leads somewhere already it writes just that file
(`changesOnly_perform`), whatever the other files are (`perform_alike`). A store that holds what its file
says goes on doing so (`inStep_perform`), and is what the file is opened as (`load_of_inStep`).
-/
namespace Sketchbook

/-- Whether a store was refused something by what it is kept in. -/
def StoreError.isFault (e : StoreError) : Bool :=
  match e.kind with
  | .unavailable | .io => true
  | .invalidKey | .serialization => false

namespace FilePreferences

open PreferenceChange (perform apply)

variable {s : FilePreferences} {place : Location}

/-! ### The file says what is held -/

/-- What a store holds is what its file says; if there is no file to be read it holds nothing. -/
def InStep (s : FilePreferences) : Prop :=
  (∃ text, s.disk.readText s.path = .ok text ∧ parse text = .ok s.items) ∨
    (∀ text, s.disk.readText s.path ≠ .ok text) ∧ s.items = ∅

/-- Preferences that are opened hold what the file says. -/
theorem inStep_of_load {disk : Disk} {path : Path} (opened : load disk path = .ok s) :
    s.path = path ∧ s.disk = disk ∧ s.InStep := by
  unfold load at opened
  split at opened
  · next text read =>
    split at opened
    · next items parsed =>
      obtain rfl := Except.ok.inj opened
      exact ⟨rfl, rfl, Or.inl ⟨text, read, parsed⟩⟩
    · cases opened
  · next missing =>
    obtain rfl := Except.ok.inj opened
    refine ⟨rfl, rfl, Or.inr ⟨fun text read => ?_, rfl⟩⟩
    cases missing.symm.trans read
  · cases opened

/-- A store that holds what its file says is what the file is opened as. -/
theorem load_of_inStep (inStep : s.InStep) {fresh : FilePreferences}
    (opened : load s.disk s.path = .ok fresh) : fresh = s := by
  obtain ⟨path, disk, inStep'⟩ := inStep_of_load opened
  have items : fresh.items = s.items := by
    rw [InStep, path, disk] at inStep'
    rcases inStep with ⟨text, read, parsed⟩ | ⟨unread, empty⟩
    · rcases inStep' with ⟨text', read', parsed'⟩ | ⟨unread', _⟩
      · obtain rfl := Except.ok.inj (read.symm.trans read')
        exact Except.ok.inj (parsed'.symm.trans parsed)
      · exact absurd read (unread' text)
    · rcases inStep' with ⟨text', read', _⟩ | ⟨_, empty'⟩
      · exact absurd read' (unread text')
      · exact empty'.trans empty.symm
  cases fresh
  cases path
  cases disk
  cases items
  rfl

/-- Whoever leaves the file alone leaves the store in step with it. -/
theorem InStep.of_disk (inStep : s.InStep) {disk : Disk}
    (same : ∀ text, disk.readText s.path = .ok text ↔ s.disk.readText s.path = .ok text) :
    InStep { s with disk } := by
  rcases inStep with ⟨text, read, parsed⟩ | ⟨unread, empty⟩
  · exact Or.inl ⟨text, (same text).mpr read, parsed⟩
  · exact Or.inr ⟨fun text read => unread text ((same text).mp read), empty⟩

/-- A change leaves the store in step with the file, whether it is made or taken back. -/
theorem inStep_perform (inStep : s.InStep) (c : PreferenceChange) : (perform s c).2.InStep := by
  obtain ⟨disk, ⟨made, file⟩ | ⟨⟨e, failed⟩, grows, unwritable⟩⟩ := perform_cases s c
  · rw [made]
    by_cases wrote : s.writes c = true
    · rw [if_pos wrote] at file
      exact Or.inl ⟨_, file, parse_render _⟩
    · rw [if_neg wrote] at file
      obtain ⟨rfl, same⟩ := file
      rw [same]
      exact inStep
  · rw [failed]
    rcases inStep with ⟨text, read, _⟩ | ⟨_, empty⟩
    · exact absurd (Disk.readText_of_grows grows read) (unwritable.readText_ne text)
    · exact Or.inr ⟨unwritable.readText_ne, empty⟩

/-- A change is made, or it is refused since the file cannot be written and the items are as they were. -/
theorem items_perform (s : FilePreferences) (c : PreferenceChange) :
    (perform s c).2.path = s.path ∧
      ((perform s c).1 = .ok () ∧ (perform s c).2.items = apply s.items c ∨
        (∃ e, (perform s c).1 = .error e) ∧ (perform s c).2.items = s.items ∧
          (perform s c).2.disk.Unwritable s.path) := by
  obtain ⟨disk, ⟨made, _⟩ | ⟨⟨e, failed⟩, _, unwritable⟩⟩ := perform_cases s c
  · rw [made]
    exact ⟨rfl, Or.inl ⟨rfl, rfl⟩⟩
  · rw [failed]
    exact ⟨rfl, Or.inr ⟨⟨e, rfl⟩, rfl, unwritable⟩⟩

/-- What is performed is a change of the file, or nothing if a name that is not there is removed. -/
private theorem perform_eq (s : FilePreferences) (c : PreferenceChange) :
    (∃ name value, s.writes c = true ∧ perform s c = s.change name value) ∨
      s.writes c = false ∧ perform s c = (.ok (), s) := by
  cases c with
  | set name value => exact Or.inl ⟨name, some value, rfl, rfl⟩
  | remove name =>
    by_cases there : s.items.contains name = true
    · exact Or.inl ⟨name, none, there, if_pos there⟩
    · exact Or.inr ⟨Bool.eq_false_iff.mpr there, if_neg there⟩

/-! ### What is added to the disk -/

private theorem adds_createDirectory_file (s : FilePreferences) :
    s.disk.Adds s.createDirectory.2 fun _ => False := by
  unfold createDirectory
  split
  · exact Disk.Adds.refl s.disk _
  · split
    · exact Disk.Adds.refl s.disk _
    · exact Disk.adds_createDirectories s.disk _

private theorem adds_persist (s : FilePreferences) :
    s.disk.Adds s.persist.2.disk fun place => s.persist.2.disk.locate s.path = .ok place := by
  have around := adds_createDirectory_file s
  unfold persist
  cases made : s.createDirectory with
  | mk answer disk =>
    rw [made] at around
    have wider {written : Location → Prop} : s.disk.Adds disk written := around.mono fun _ => False.elim
    cases answer with
    | error e => exact wider
    | ok _ =>
      simp only
      cases written : disk.write s.path (render s.items).toUTF8 with
      | error e => exact wider
      | ok changed => exact wider.trans (Disk.adds_write written)

/-- The disk after a change is the one on which the file was written. -/
private theorem disk_change (s : FilePreferences) (name : String) (value : Option String) :
    (s.change name value).2.disk =
      ({ s with items := assign s.items name value } : FilePreferences).persist.2.disk := by
  unfold change
  split
  · next done => rw [done]
  · next done => rw [done]

/-- A change adds nothing but directories and what is written to the file. -/
theorem adds_perform (s : FilePreferences) (c : PreferenceChange) :
    s.disk.Adds (perform s c).2.disk fun place => (perform s c).2.disk.locate s.path = .ok place := by
  obtain ⟨name, value, _, done⟩ | ⟨_, done⟩ := perform_eq s c
  · rw [done, disk_change]
    exact adds_persist { s with items := assign s.items name value }
  · rw [done]
    exact Disk.Adds.refl s.disk _

/-! ### When the path leads somewhere already -/

/-- No directory is made for a path that leads somewhere. -/
theorem createDirectory_of_located (led : s.disk.locate s.path = .ok place) :
    s.createDirectory = (.ok (), s.disk) := by
  unfold createDirectory
  split
  · rfl
  · next dir around =>
    cases blank : dir.text.isEmpty with
    | true => simp
    | false =>
      obtain ⟨outer, found, there⟩ :=
        Disk.isDirectory_iff.mp (Disk.isDirectory_parent around blank led)
      have has : s.disk.has dir = true := by
        rw [Disk.has, Disk.lookup_directory found there]
        rfl
      simp [has]

private theorem changesOnly_persist (led : s.disk.locate s.path = .ok place) :
    s.disk.ChangesOnly s.persist.2.disk (· = place) := by
  rw [persist, createDirectory_of_located led]
  simp only
  split
  · exact Disk.ChangesOnly.refl s.disk _
  · next disk written =>
    obtain ⟨same, found, free, _, rfl⟩ := Disk.write_eq_ok.mp written
    obtain rfl := Except.ok.inj (led.symm.trans found)
    exact Disk.ChangesOnly.insert_file free _

private theorem result_persist (led : s.disk.locate s.path = .ok place) :
    s.persist.1 = if s.disk.isDirectory s.path || s.path.endsInSlash then
      .error (.cannotWrite s.path .isDirectory) else .ok () := by
  rw [persist, createDirectory_of_located led]
  simp only [Disk.write, Disk.isDirectory, Disk.lookup, led, bind, Except.bind]
  cases stands : s.disk.node? place with
  | none => cases slash : s.path.endsInSlash <;> simp
  | some node => cases node <;> cases slash : s.path.endsInSlash <;> simp

/-- The answer to a change is that of the change of the file. -/
private theorem result_change (s : FilePreferences) (name : String) (value : Option String) :
    (s.change name value).1 =
      ({ s with items := assign s.items name value } : FilePreferences).persist.1 := by
  unfold change
  split
  · next done => rw [done]
  · next done => rw [done]

/-- A change that fails is refused by the disk. -/
theorem isFault_perform {e : StoreError} {c : PreferenceChange}
    (failed : (perform s c).1 = .error e) : e.isFault = true := by
  have refused (s : FilePreferences) (failed : s.persist.1 = .error e) : e.isFault = true := by
    unfold persist at failed
    split at failed
    · next made =>
      obtain rfl := Except.error.inj failed
      unfold createDirectory at made
      split at made
      · cases made
      · split at made
        · cases made
        · next dir _ _ =>
          cases done : s.disk.createDirectories dir with
          | mk answer grown =>
            rw [done] at made
            cases answer with
            | ok _ => cases made
            | error reason =>
              obtain ⟨refused, _⟩ := Prod.mk.inj made
              obtain rfl := Except.error.inj refused
              rfl
    · split at failed
      · obtain rfl := Except.error.inj failed
        rfl
      · cases failed
  obtain ⟨name, value, _, done⟩ | ⟨_, done⟩ := perform_eq s c
  · rw [done, result_change] at failed
    exact refused _ failed
  · rw [done] at failed
    cases failed

/-- If the path of the file leads somewhere, a change fails only if a directory stands there, or the path
is that of a directory. -/
theorem result_perform (led : s.disk.locate s.path = .ok place) (c : PreferenceChange) :
    (perform s c).1 = if s.writes c && (s.disk.isDirectory s.path || s.path.endsInSlash) then
      .error (.cannotWrite s.path .isDirectory) else .ok () := by
  obtain ⟨name, value, wrote, done⟩ | ⟨idle, done⟩ := perform_eq s c
  · rw [done, wrote, Bool.true_and, result_change]
    exact result_persist (s := { s with items := assign s.items name value }) led
  · rw [done, idle]
    rfl

/-- A change that has to be written is made, and is in the file, if no directory stands in its way. -/
theorem made_perform {c : PreferenceChange} (led : s.disk.locate s.path = .ok place)
    (file : s.disk.node? place ≠ some .directory) (slash : s.path.endsInSlash = false)
    (wrote : s.writes c = true) :
    ∃ disk, perform s c = (.ok (), ⟨s.path, apply s.items c, disk⟩) ∧
      disk.readText s.path = .ok (render (apply s.items c)) := by
  have free : s.disk.isDirectory s.path = false := by
    rw [Bool.eq_false_iff]
    intro directory
    obtain ⟨other, led', stands⟩ := Disk.isDirectory_iff.mp directory
    obtain rfl := Except.ok.inj (led.symm.trans led')
    exact file stands
  have done := result_perform led c
  rw [free, slash, Bool.or_self, Bool.and_false, if_neg Bool.false_ne_true] at done
  obtain ⟨disk, ⟨made, written⟩ | ⟨⟨e, failed⟩, _⟩⟩ := perform_cases s c
  · rw [if_pos wrote] at written
    exact ⟨disk, made, written⟩
  · rw [failed] at done
    cases done

/-- If the path of the file leads somewhere, a change touches the file there and nothing else. -/
theorem changesOnly_perform (led : s.disk.locate s.path = .ok place) (c : PreferenceChange) :
    s.disk.ChangesOnly (perform s c).2.disk (· = place) := by
  obtain ⟨name, value, _, done⟩ | ⟨_, done⟩ := perform_eq s c
  · rw [done, disk_change]
    exact changesOnly_persist (s := { s with items := assign s.items name value }) led
  · rw [done]
    exact Disk.ChangesOnly.refl s.disk _

/-! ### Two stores side by side -/

section Alike

variable {disk : Disk} {hidden : Location → Prop}

/-- Two changes that answer the same and leave the same items, on disks that differ only at some
places. -/
structure SameAnswer (hidden : Location → Prop) (own other : Except StoreError Unit × FilePreferences) :
    Prop where
  result : other.1 = own.1
  items : other.2.items = own.2.items
  disk : own.2.disk.ChangesOnly other.2.disk hidden

private theorem persist_alike (led : s.disk.locate s.path = .ok place)
    (only : s.disk.ChangesOnly disk hidden) :
    SameAnswer hidden s.persist ({ s with disk } : FilePreferences).persist := by
  have written := only.write led (render s.items).toUTF8
  rw [persist, persist, createDirectory_of_located led,
    createDirectory_of_located (s := { s with disk }) (only.locate_iff.mpr led)]
  obtain ⟨e, own, other⟩ | ⟨grown, grown', own, other, related⟩ := written.outcomes
  · simp only [own, other]
    exact ⟨rfl, rfl, only⟩
  · simp only [own, other]
    exact ⟨rfl, rfl, related⟩

private theorem change_alike (led : s.disk.locate s.path = .ok place)
    (only : s.disk.ChangesOnly disk hidden) (name : String) (value : Option String) :
    SameAnswer hidden (s.change name value) (({ s with disk } : FilePreferences).change name value) := by
  have written := persist_alike (s := { s with items := assign s.items name value }) led only
  unfold change
  generalize ({ s with items := assign s.items name value } : FilePreferences).persist = own,
    ({ s with items := assign s.items name value, disk } : FilePreferences).persist = other at written ⊢
  obtain ⟨_, changed⟩ := own
  obtain ⟨result, changed'⟩ := other
  obtain ⟨rfl, items, related⟩ := written
  cases result with
  | ok _ => exact ⟨rfl, items, related⟩
  | error e => exact ⟨rfl, congrArg (assign · name (s.items.get? name)) items, related⟩

/-- If the path of the file leads somewhere, a change is made in both stores, or in neither for the same
reason, and where their disks differ does not grow. -/
theorem perform_alike (led : s.disk.locate s.path = .ok place)
    (only : s.disk.ChangesOnly disk hidden) (c : PreferenceChange) :
    SameAnswer hidden (perform s c) (perform ({ s with disk } : FilePreferences) c) := by
  cases c with
  | set name value => exact change_alike led only name (some value)
  | remove name =>
    simp only [perform, PreferenceStore.removeItem]
    split
    · exact change_alike led only name none
    · exact ⟨rfl, rfl, only⟩

end Alike

end FilePreferences

end Sketchbook
