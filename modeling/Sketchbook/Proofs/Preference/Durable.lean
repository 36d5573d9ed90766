import Mathlib.Data.List.Induction
import Sketchbook.Preference.Store
import Sketchbook.Proofs.Disk.Parents
import Sketchbook.Proofs.Json.Lines

/-!
Preferences in a file. As long as nobody else writes the file, preferences that are changed and
opened again in any order, with writes that may fail, hold what preferences in memory hold after the
changes that succeeded, and so does the file (`file_preferences_are_durable`). A disk refuses to be
written while something else stands where the file is, or around it: changes fail then and are taken
back.
-/
namespace Sketchbook

/-- A change of preferences. -/
inductive PreferenceChange where
  | set (name value : String)
  | remove (name : String)
  deriving DecidableEq

namespace PreferenceChange

variable {σ : Type} [PreferenceStore σ]

/-- Asks a store for a change. -/
def perform (s : σ) : PreferenceChange → Except StoreError Unit × σ
  | .set name value => PreferenceStore.setItem s name value
  | .remove name => PreferenceStore.removeItem s name

/-- A store after changes. -/
def performAll (s : σ) (changes : List PreferenceChange) : σ :=
  changes.foldl (fun s change => (perform s change).2) s

/-- What preferences hold after a change. -/
def apply (items : SortedMap String String) : PreferenceChange → SortedMap String String
  | .set name value => items.insert name value
  | .remove name => items.erase name

/-- Preferences in memory take every change. -/
theorem perform_memory (m : MemoryPreferences) (c : PreferenceChange) :
    perform m c = (.ok (), ⟨apply m.items c⟩) := by
  cases c <;> rfl

end PreferenceChange

namespace FilePreferences

open PreferenceChange (perform performAll apply)

/-! ### The file -/

/-- Preferences are read back from their file, whatever names and texts they are. -/
theorem parse_render (items : SortedMap String String) : parse (render items) = .ok items := by
  rw [parse, render, Json.readAll_indented]
  exact congrArg Except.ok items.ofList_entries

/-- A file of preferences is opened as the preferences that were written. -/
theorem load_of_rendered {disk : Disk} {path : Path} {items : SortedMap String String}
    (read : disk.readText path = .ok (render items)) : load disk path = .ok ⟨path, items, disk⟩ := by
  simp [load, read, parse_render]

theorem load_of_absent {disk : Disk} {path : Path} (absent : disk.readText path = .error .notFound) :
    load disk path = .ok ⟨path, ∅, disk⟩ := by
  simp [load, absent]

theorem load_of_unreachable {disk : Disk} {path : Path} {e : DiskError}
    (read : disk.readText path = .error e) (other : e ≠ .notFound) :
    load disk path = .error (.cannotRead path e) := by
  rw [load, read]
  cases e with
  | notFound => exact absurd rfl other
  | _ => rfl

private theorem grows_createDirectory_file (s : FilePreferences) :
    Disk.Grows s.disk s.createDirectory.2 := by
  unfold createDirectory
  split
  · exact Disk.Grows.refl s.disk
  · split
    · exact Disk.Grows.refl s.disk
    · exact Disk.grows_createDirectories s.disk _

/-- If the directory of the file could not be made, the file cannot be written. -/
private theorem unwritable_of_createDirectory {s : FilePreferences} {e : StoreError} {disk : Disk}
    (failed : s.createDirectory = (.error e, disk)) : disk.Unwritable s.path := by
  intro content
  cases written : disk.write s.path content with
  | error e => exact ⟨e, rfl⟩
  | ok changed =>
    obtain ⟨place, led, _⟩ := Disk.write_eq_ok.mp written
    unfold createDirectory at failed
    split at failed
    · cases failed
    · next dir around =>
      split at failed
      · cases failed
      · next missing =>
        obtain ⟨blank, _⟩ : dir.text.isEmpty = false ∧ s.disk.has dir = false := by
          simpa using missing
        have there := Disk.isDirectory_parent around blank led
        cases done : s.disk.createDirectories dir with
        | mk made grown =>
          rw [done] at failed
          cases made with
          | ok _ => cases failed
          | error refused =>
            obtain ⟨_, rfl⟩ := Prod.mk.inj failed
            cases there.symm.trans (Disk.isDirectory_of_createDirectories done)

/-- Writing the items succeeds and leaves them in the file; or it fails, and then the file cannot be
written, but every text that was to be read on the disk still is. -/
private theorem persist_cases (s : FilePreferences) :
    ∃ disk, s.persist.2 = { s with disk } ∧
      (s.persist.1 = .ok () ∧ disk.readText s.path = .ok (render s.items) ∨
        (∃ e, s.persist.1 = .error e) ∧ Disk.Grows s.disk disk ∧ disk.Unwritable s.path) := by
  have grows := grows_createDirectory_file s
  unfold persist
  cases made : s.createDirectory with
  | mk answer disk =>
    rw [made] at grows
    cases answer with
    | error e => exact ⟨disk, rfl, Or.inr ⟨⟨e, rfl⟩, grows, unwritable_of_createDirectory made⟩⟩
    | ok _ =>
      simp only
      cases written : disk.write s.path (render s.items).toUTF8 with
      | error e =>
        exact ⟨disk, rfl, Or.inr ⟨⟨_, rfl⟩, grows, Disk.unwritable_of_error written⟩⟩
      | ok changed => exact ⟨changed, rfl, Or.inl ⟨rfl, Disk.readText_of_write written⟩⟩

/-! ### Changes -/

/-- Whether a change writes the file: the removal of a name that is not there does not. -/
def writes (s : FilePreferences) : PreferenceChange → Bool
  | .set _ _ => true
  | .remove name => s.items.contains name

/-- What a name was given is taken back by giving it its old text. -/
private theorem assign_back (items : SortedMap String String) (name : String)
    (value : Option String) : assign (assign items name value) name (items.get? name) = items := by
  apply SortedMap.ext_get?
  intro other
  by_cases self : other = name
  · rw [self]
    cases held : items.get? name <;> simp [assign, SortedMap.get?_insert, SortedMap.get?_erase]
  · cases items.get? name <;> cases value <;>
      simp [assign, SortedMap.get?_insert, SortedMap.get?_erase, self]

/-- A change is made and the file then holds the new preferences, or it fails and is taken back. -/
private theorem change_cases (s : FilePreferences) (name : String) (value : Option String) :
    ∃ disk, (s.change name value = (.ok (), ⟨s.path, assign s.items name value, disk⟩) ∧
        disk.readText s.path = .ok (render (assign s.items name value))) ∨
      (∃ e, s.change name value = (.error e, { s with disk })) ∧ Disk.Grows s.disk disk ∧
        disk.Unwritable s.path := by
  obtain ⟨disk, left, outcome⟩ := persist_cases { s with items := assign s.items name value }
  refine ⟨disk, ?_⟩
  unfold change
  generalize ({ s with items := assign s.items name value } : FilePreferences).persist = done
    at left outcome ⊢
  obtain ⟨answer, changed⟩ := done
  obtain rfl := left
  rcases outcome with ⟨rfl, read⟩ | ⟨⟨e, rfl⟩, kept⟩
  · exact Or.inl ⟨rfl, read⟩
  · refine Or.inr ⟨⟨e, ?_⟩, kept⟩
    simp only [assign_back]

/-- What a change comes to: it is made, and if it writes the file then the file holds the new
preferences; or it fails since the file cannot be written, and neither the preferences nor the texts on
the disk are lost. -/
theorem perform_cases (s : FilePreferences) (c : PreferenceChange) :
    ∃ disk, (perform s c = (.ok (), ⟨s.path, apply s.items c, disk⟩) ∧
        if s.writes c then disk.readText s.path = .ok (render (apply s.items c))
        else disk = s.disk ∧ apply s.items c = s.items) ∨
      (∃ e, perform s c = (.error e, { s with disk })) ∧ Disk.Grows s.disk disk ∧
        disk.Unwritable s.path := by
  cases c with
  | set name value => exact change_cases s name (some value)
  | remove name =>
    by_cases there : s.items.contains name = true
    · have asked : perform s (.remove name) = s.change name none := if_pos there
      simp only [asked, writes, there, ↓reduceIte]
      exact change_cases s name none
    · have asked : perform s (.remove name) = (.ok (), s) := if_neg there
      have absent : apply s.items (.remove name) = s.items := by
        apply SortedMap.ext_get?
        intro other
        rw [apply, SortedMap.get?_erase]
        split
        · next self =>
          rw [SortedMap.contains, Option.not_isSome_iff_eq_none] at there
          rw [self, there]
        · rfl
      refine ⟨s.disk, Or.inl ⟨?_, ?_⟩⟩
      · rw [asked, absent]
      · simp [writes, there, absent]

/-! ### Runs -/

/-- What can happen to preferences in a file. To read an item changes nothing. -/
inductive Event where
  | change (c : PreferenceChange)
  /-- The file is opened again. If that fails the store stays as it is. -/
  | reopen
  /-- Somebody else does something to the disk, or the disk refuses the file from now on, or no longer. -/
  | elsewhere (f : Disk → Disk)

def step (s : FilePreferences) : Event → Except StoreError Unit × FilePreferences
  | .change c => perform s c
  | .reopen =>
    match load s.disk s.path with
    | .ok fresh => (.ok (), fresh)
    | .error e => (.error e, s)
  | .elsewhere f => (.ok (), { s with disk := f s.disk })

/-- A run as it stands: the store, the changes that succeeded, and the text that the last of them to
write the file has left there. -/
structure Trace where
  store : FilePreferences
  made : List PreferenceChange := []
  left : Option String := none

namespace Trace

def next (t : Trace) (event : Event) : Trace :=
  match event, t.store.step event with
  | .change c, (.ok (), store) =>
    { store, made := t.made ++ [c],
      left := if t.store.writes c then (store.disk.readText store.path).toOption else t.left }
  | _, (_, store) => { t with store }

def run (t : Trace) (events : List Event) : Trace := events.foldl next t

/-- What is found in the file now. -/
def found (t : Trace) : Except DiskError String := t.store.disk.readText t.store.path

/-- The file is as it was left, or it is out of reach. -/
def Undisturbed (t : Trace) : Prop :=
  (∀ text, t.found = .ok text → t.left = some text) ∧ (t.found = .error .notFound → t.left = none)

/-- The store holds what its changes come to, and so does the file as it was left. -/
structure Holds (t : Trace) : Prop where
  items : t.store.items = (performAll ({} : MemoryPreferences) t.made).items
  written : ∀ text, t.left = some text → text = render t.store.items
  unwritten : t.left = none → t.store.items = ∅
  undisturbed : t.Undisturbed

private theorem run_concat (t : Trace) (events : List Event) (event : Event) :
    t.run (events ++ [event]) = (t.run events).next event := by
  simp [run]

private theorem performAll_concat (changes : List PreferenceChange) (c : PreferenceChange) :
    (performAll ({} : MemoryPreferences) (changes ++ [c])).items =
      apply (performAll ({} : MemoryPreferences) changes).items c := by
  simp [performAll, PreferenceChange.perform_memory]

/-- The file is opened as the preferences that are there, unless it is out of reach. -/
theorem Holds.load {t : Trace} (holds : t.Holds) :
    load t.store.disk t.store.path = .ok t.store ∨
      ∃ e, e ≠ .notFound ∧ t.found = .error e ∧
        load t.store.disk t.store.path = .error (.cannotRead t.store.path e) := by
  cases read : t.found with
  | ok text =>
    obtain rfl := holds.written text (holds.undisturbed.1 text read)
    exact Or.inl (load_of_rendered read)
  | error e =>
    by_cases missing : e = .notFound
    · rw [missing] at read
      have empty := load_of_absent read
      rw [← holds.unwritten (holds.undisturbed.2 read)] at empty
      exact Or.inl empty
    · exact Or.inr ⟨e, missing, rfl, load_of_unreachable read missing⟩

/-- A change that is made. If it writes the file, the file is left with the new preferences. -/
private theorem holds_made {t : Trace} (holds : t.Holds) {c : PreferenceChange} {disk : Disk}
    (made : perform t.store c = (.ok (), ⟨t.store.path, apply t.store.items c, disk⟩))
    (file : if t.store.writes c then disk.readText t.store.path = .ok (render (apply t.store.items c))
      else disk = t.store.disk ∧ apply t.store.items c = t.store.items) :
    (t.next (.change c)).Holds := by
  have shape : t.next (.change c) =
      { store := ⟨t.store.path, apply t.store.items c, disk⟩, made := t.made ++ [c],
        left := if t.store.writes c then (disk.readText t.store.path).toOption else t.left } := by
    simp [next, step, made]
  have items : apply t.store.items c =
      (performAll ({} : MemoryPreferences) (t.made ++ [c])).items := by
    rw [performAll_concat, ← holds.items]
  rw [shape]
  by_cases wrote : t.store.writes c = true
  · rw [if_pos wrote] at file
    have left : (disk.readText t.store.path).toOption = some (render (apply t.store.items c)) := by
      rw [file]
      rfl
    rw [if_pos wrote, left]
    refine ⟨items, fun text same => (Option.some.inj same).symm, nofun, ?_, ?_⟩
    · intro text read
      rw [← Except.ok.inj (file.symm.trans read)]
    · intro missing
      cases file.symm.trans missing
  · rw [if_neg wrote] at file
    obtain ⟨rfl, same⟩ := file
    rw [if_neg wrote]
    refine ⟨items, fun text left => ?_, fun unwritten => ?_, holds.undisturbed⟩
    · rw [holds.written text left, same]
    · exact same.trans (holds.unwritten unwritten)

/-- A change that fails. The file cannot be written then, nor read. -/
private theorem holds_failed {t : Trace} (holds : t.Holds) {c : PreferenceChange} {e : StoreError}
    {disk : Disk} (failed : perform t.store c = (.error e, { t.store with disk }))
    (grows : Disk.Grows t.store.disk disk)
    (unwritable : disk.Unwritable t.store.path) : (t.next (.change c)).Holds := by
  have shape : t.next (.change c) = { t with store := { t.store with disk } } := by
    simp [next, step, failed]
  rw [shape]
  refine ⟨holds.items, holds.written, holds.unwritten, ?_, ?_⟩
  · intro text read
    exact absurd read (unwritable.readText_ne text)
  · intro missing
    exact holds.undisturbed.2 (Disk.readText_notFound_of_grows grows missing)

theorem holds_next {t : Trace} (holds : t.Holds) (event : Event)
    (others : ∀ f, event = .elsewhere f → (t.next event).Undisturbed) : (t.next event).Holds := by
  cases event with
  | change c =>
    obtain ⟨disk, ⟨made, file⟩ | ⟨⟨e, failed⟩, grows, unwritable⟩⟩ := perform_cases t.store c
    · exact holds_made holds made file
    · exact holds_failed holds failed grows unwritable
  | reopen =>
    have same : t.next .reopen = t := by
      rcases holds.load with opened | ⟨e, _, _, refused⟩
      · simp [next, step, opened]
      · simp [next, step, refused]
    rw [same]
    exact holds
  | elsewhere f => exact ⟨holds.items, holds.written, holds.unwritten, others f rfl⟩

private theorem holds_run {t : Trace} (holds : t.Holds) {events : List Event}
    (others : ∀ prior f later, events = prior ++ .elsewhere f :: later →
      (t.run (prior ++ [.elsewhere f])).Undisturbed) : (t.run events).Holds := by
  induction events using List.reverseRecOn with
  | nil => exact holds
  | append_singleton events event ih =>
    rw [run_concat]
    refine holds_next (ih fun prior f later split => ?_) event fun f last => ?_
    · exact others prior f (later ++ [event]) (by simp [split])
    · rw [last, ← run_concat]
      exact others events f [] (by rw [last])

/-- What is true of a store at any point of a run. -/
structure Durable (t : Trace) : Prop where
  /-- Every item is what preferences in memory hold after the changes that succeeded. -/
  reads : ∀ name, PreferenceStore.getItem t.store name =
    PreferenceStore.getItem (performAll ({} : MemoryPreferences) t.made) name
  /-- The file says the same; where there is none, nothing is held. -/
  file : (∀ text, t.found = .ok text → parse text = .ok t.store.items) ∧
    (t.found = .error .notFound → t.store.items = ∅)
  /-- The file is opened as this store, unless it is out of reach. -/
  opens : load t.store.disk t.store.path = .ok t.store ∨
    ∃ e, e ≠ .notFound ∧ t.found = .error e ∧
      load t.store.disk t.store.path = .error (.cannotRead t.store.path e)
  /-- A change that succeeds is in the file, unless there was nothing to write. -/
  succeeds : ∀ c, (perform t.store c).1 = .ok () → t.store.writes c = true →
    (t.next (.change c)).found = .ok (render (t.next (.change c)).store.items)
  /-- A change that fails is taken back, and what was to be read on the disk still is. -/
  fails : ∀ c e, (perform t.store c).1 = .error e → (perform t.store c).2.items = t.store.items ∧
    ∀ path text, t.store.disk.readText path = .ok text →
      (perform t.store c).2.disk.readText path = .ok text

private theorem durable_of_holds {t : Trace} (holds : t.Holds) : t.Durable where
  reads name := congrArg (SortedMap.get? · name) holds.items
  file := by
    refine ⟨fun text read => ?_, fun absent => holds.unwritten (holds.undisturbed.2 absent)⟩
    rw [holds.written text (holds.undisturbed.1 text read), parse_render]
  opens := holds.load
  succeeds c made wrote := by
    obtain ⟨disk, ⟨shape, file⟩ | ⟨⟨e, failed⟩, _⟩⟩ := perform_cases t.store c
    · rw [if_pos wrote] at file
      have left : (t.next (.change c)).store = ⟨t.store.path, apply t.store.items c, disk⟩ := by
        simp [next, step, shape]
      rw [found, left]
      exact file
    · rw [failed] at made
      cases made
  fails c e failed := by
    obtain ⟨disk, ⟨shape, _⟩ | ⟨⟨_, shape⟩, grows, _⟩⟩ := perform_cases t.store c
    · rw [shape] at failed
      cases failed
    · rw [shape]
      exact ⟨rfl, fun path text read => Disk.readText_of_grows grows read⟩

end Trace

/-- A file that is missing is opened as no preferences. From then on, through any changes that succeed
or fail and any times that the file is opened again, the store holds what its successful changes come
to and the file says the same, as long as the others who use the disk leave the file as it was left, or
out of reach. -/
theorem file_preferences_are_durable (disk : Disk) (path : Path)
    (absent : disk.readText path = .error .notFound) (events : List Event)
    (others : ∀ prior f later, events = prior ++ .elsewhere f :: later →
      (Trace.run { store := ⟨path, ∅, disk⟩ } (prior ++ [.elsewhere f])).Undisturbed) :
    load disk path = .ok ⟨path, ∅, disk⟩ ∧
      (Trace.run { store := ⟨path, ∅, disk⟩ } events).Durable := by
  have start : Trace.Holds { store := ⟨path, ∅, disk⟩ } := by
    refine ⟨rfl, nofun, fun _ => rfl, fun text read => ?_, fun _ => rfl⟩
    cases absent.symm.trans read
  exact ⟨load_of_absent absent, Trace.durable_of_holds (Trace.holds_run start others)⟩

/-! ### One file -/

/-- A file in the working directory. -/
private def besides : Path := ⟨"p"⟩

private theorem locate_besides (nodes : SortedMap Location Node) :
    Disk.locate ⟨nodes, []⟩ besides = .ok ["p"] :=
  Disk.locate_eq_ok.mpr ⟨rfl, by decide, by decide, rfl⟩

private theorem readText_besides (nodes : SortedMap Location Node) :
    Disk.readText ⟨nodes, []⟩ besides =
      match nodes.get? ["p"] with
      | none => .error .notFound
      | some .directory => .error .isDirectory
      | some (.file content) => decodeText content := by
  have isOpen : besides.endsInSlash = false := by decide
  have stands : Disk.node? ⟨nodes, []⟩ ["p"] = nodes.get? ["p"] := rfl
  simp only [Disk.readText, Disk.readBytes, Disk.lookup, locate_besides, stands, bind, Except.bind]
  cases nodes.get? ["p"] with
  | none => rfl
  | some node => cases node <;> simp [isOpen]

private theorem persist_besides (items : SortedMap String String) (nodes : SortedMap Location Node) :
    persist ⟨besides, items, ⟨nodes, []⟩⟩ =
      match nodes.get? ["p"] with
      | some .directory =>
        (.error (.cannotWrite besides .isDirectory), ⟨besides, items, ⟨nodes, []⟩⟩)
      | _ => (.ok (), ⟨besides, items, ⟨nodes.insert ["p"] (.file (render items).toUTF8), []⟩⟩) := by
  have made : createDirectory ⟨besides, items, ⟨nodes, []⟩⟩ = (.ok (), ⟨nodes, []⟩) := by
    have around : besides.parent? = some ⟨""⟩ := by decide
    rw [createDirectory, around]
    rfl
  have isOpen : besides.endsInSlash = false := by decide
  have stands : Disk.node? ⟨nodes, []⟩ ["p"] = nodes.get? ["p"] := rfl
  simp only [persist, made, Disk.write, locate_besides, stands, bind, Except.bind]
  cases nodes.get? ["p"] with
  | none => simp [isOpen]
  | some node => cases node <;> simp [isOpen]

private theorem next_set {items : SortedMap String String} {nodes : SortedMap Location Node}
    {made : List PreferenceChange} {left : Option String}
    (free : nodes.get? ["p"] ≠ some .directory) (name value : String) :
    Trace.next ⟨⟨besides, items, ⟨nodes, []⟩⟩, made, left⟩ (.change (.set name value)) =
      ⟨⟨besides, items.insert name value,
          ⟨nodes.insert ["p"] (.file (render (items.insert name value)).toUTF8), []⟩⟩,
        made ++ [.set name value], some (render (items.insert name value))⟩ := by
  have done : perform (⟨besides, items, ⟨nodes, []⟩⟩ : FilePreferences) (.set name value) =
      (.ok (), ⟨besides, items.insert name value,
        ⟨nodes.insert ["p"] (.file (render (items.insert name value)).toUTF8), []⟩⟩) := by
    simp only [perform, PreferenceStore.setItem, change, assign, persist_besides]
  have read : Disk.readText
      ⟨nodes.insert ["p"] (.file (render (items.insert name value)).toUTF8), []⟩ besides =
        .ok (render (items.insert name value)) := by
    rw [readText_besides, SortedMap.get?_insert, if_pos rfl]
    exact decodeText_toUTF8 _
  simp only [Trace.next, step, done, writes, read]
  rfl

private theorem next_remove_of_directory {items : SortedMap String String}
    {nodes : SortedMap Location Node} {made : List PreferenceChange} {left : Option String}
    {name : String} (obstructed : nodes.get? ["p"] = some .directory)
    (held : items.contains name = true) :
    Trace.next ⟨⟨besides, items, ⟨nodes, []⟩⟩, made, left⟩ (.change (.remove name)) =
      ⟨⟨besides, items, ⟨nodes, []⟩⟩, made, left⟩ := by
  have failed : perform (⟨besides, items, ⟨nodes, []⟩⟩ : FilePreferences) (.remove name) =
      (.error (.cannotWrite besides .isDirectory), ⟨besides, items, ⟨nodes, []⟩⟩) := by
    have back := assign_back items name none
    simp only [perform, PreferenceStore.removeItem, held, ↓reduceIte, change, persist_besides,
      obstructed, back]
  simp only [Trace.next, step, failed]

/-- Preferences with a name and a text that are escaped in the file. -/
def escapedItem : SortedMap String String := .ofList [("\n", "\"")]

/-- A directory takes the place of the file while a name is removed, and then the file is there
again. -/
def obstructedRemoval : List Event :=
  [.change (.set "\n" "\""),
    .elsewhere fun disk => { disk with nodes := disk.nodes.insert ["p"] .directory },
    .change (.remove "\n"),
    .elsewhere fun disk => { disk with
      nodes := disk.nodes.insert ["p"] (.file (render escapedItem).toUTF8) },
    .reopen]

/-- The trace once the item is there, with any disk. -/
private def escapedTrace (nodes : SortedMap Location Node) : Trace :=
  ⟨⟨besides, escapedItem, ⟨nodes, []⟩⟩, [.set "\n" "\""], some (render escapedItem)⟩

private theorem undisturbed_directory (nodes : SortedMap Location Node) :
    (escapedTrace (nodes.insert ["p"] .directory)).Undisturbed := by
  have found : (escapedTrace (nodes.insert ["p"] .directory)).found = .error .isDirectory := by
    refine (readText_besides _).trans ?_
    rw [SortedMap.get?_insert, if_pos rfl]
  rw [Trace.Undisturbed, found]
  simp

private theorem undisturbed_file (nodes : SortedMap Location Node) :
    (escapedTrace (nodes.insert ["p"] (.file (render escapedItem).toUTF8))).Undisturbed := by
  have found : (escapedTrace (nodes.insert ["p"] (.file (render escapedItem).toUTF8))).found =
      .ok (render escapedItem) := by
    refine (readText_besides _).trans ?_
    rw [SortedMap.get?_insert, if_pos rfl]
    exact decodeText_toUTF8 _
  rw [Trace.Undisturbed, found]
  simp [escapedTrace]

/-- The run up to each of the two things that others do. -/
private theorem run_obstructedRemoval : ∃ nodes : SortedMap Location Node,
    Trace.run { store := ⟨besides, ∅, ⟨∅, []⟩⟩ } (obstructedRemoval.take 2) =
        escapedTrace (nodes.insert ["p"] .directory) ∧
      Trace.run { store := ⟨besides, ∅, ⟨∅, []⟩⟩ } (obstructedRemoval.take 4) =
        escapedTrace ((nodes.insert ["p"] .directory).insert ["p"]
          (.file (render escapedItem).toUTF8)) := by
  have set : Trace.next { store := ⟨besides, ∅, ⟨∅, []⟩⟩ } (.change (.set "\n" "\"")) =
      escapedTrace (SortedMap.insert ∅ ["p"] (.file (render escapedItem).toUTF8)) :=
    next_set (by simp) "\n" "\""
  have removed : ∀ nodes : SortedMap Location Node,
      (escapedTrace (nodes.insert ["p"] .directory)).next (.change (.remove "\n")) =
        escapedTrace (nodes.insert ["p"] .directory) := fun nodes =>
    next_remove_of_directory (by rw [SortedMap.get?_insert, if_pos rfl]) (by decide)
  refine ⟨SortedMap.insert ∅ ["p"] (.file (render escapedItem).toUTF8), ?_, ?_⟩
  · simp only [obstructedRemoval, List.take, Trace.run, List.foldl, set]
    rfl
  · simp only [obstructedRemoval, List.take, Trace.run, List.foldl, set]
    exact congrArg (Trace.next · _) (removed _)

theorem obstructedRemoval_durable :
    (Trace.run { store := ⟨besides, ∅, ⟨∅, []⟩⟩ } obstructedRemoval).Durable ∧
      (Trace.run { store := ⟨besides, ∅, ⟨∅, []⟩⟩ } (obstructedRemoval.take 4)).made =
        [.set "\n" "\""] := by
  have absent : Disk.readText ⟨∅, []⟩ besides = .error .notFound := readText_besides ∅
  obtain ⟨nodes, obstructed, restored⟩ := run_obstructedRemoval
  refine ⟨(file_preferences_are_durable ⟨∅, []⟩ besides absent obstructedRemoval ?_).2, ?_⟩
  · intro prior f later split
    have either : prior ++ [.elsewhere f] = obstructedRemoval.take 2 ∨
        prior ++ [.elsewhere f] = obstructedRemoval.take 4 := by
      simp only [obstructedRemoval, List.cons_eq_append_iff, List.cons.injEq, reduceCtorEq,
        false_and, and_false, Event.elsewhere.injEq, List.nil_eq, List.append_eq_nil_iff,
        exists_const, or_self, or_false, ↓existsAndEq, true_and, false_or] at split
      obtain ⟨_, rfl, ⟨rfl, rfl, _⟩ | ⟨rfl, rfl, _⟩⟩ := split
      · exact Or.inl rfl
      · exact Or.inr rfl
    rcases either with two | four
    · rw [two, obstructed]
      exact undisturbed_directory nodes
    · rw [four, restored]
      exact undisturbed_file _
  · rw [restored]
    rfl

end FilePreferences

end Sketchbook
