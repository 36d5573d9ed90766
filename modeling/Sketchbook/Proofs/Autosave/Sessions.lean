import Sketchbook.Proofs.Autosave.SessionCalls
import Sketchbook.Proofs.Autosave.Convergence
import Sketchbook.Proofs.Json.Lines

/-!
What editing sessions save. A session over text writes each scene that no other one follows within
the window and leaves nothing to wait, so that in the end the last scene is stored
(`session_saves_last_scene`). A session whose input goes bad is over at once, and its last scene is
handed to the store only if a later line came when the window had passed
(`bad_input_loses_last_scene_iff`).
-/
namespace Sketchbook.Session

open Editor

variable {σ : Type} [Records σ]

/-! ### The editor of a session -/

variable (e : Editor σ) (d : Descriptor)

private theorem active_opening : (opening e d).active = some d := by
  simp [opening]

private theorem loaded_opening : (opening e d).content.isSome = true := by
  simp [opening]

private theorem idle_opening : (opening e d).waiting.isEmpty = true := by
  simp [opening, QuietQueue.clear, QuietQueue.isEmpty, QuietQueue.entries]

private theorem window_opening : (opening e d).waiting.window = e.waiting.window := by
  simp [opening, QuietQueue.clear]

private theorem library_opening : (opening e d).library = e.library := by
  simp [opening]

/-- What a session over text comes to. -/
structure Completed (input : List TimedLine) (report : SessionReport σ) (summary : SessionSummary)
    (answers : List WriteOutcome) : Prop where
  result : report.result = .ok summary
  /-- The stored content was printed, and on one line. -/
  printed : report.printed = (shown (e.library.get d.id)).toText ∧ '\n' ∉ report.printed.toList
  edits : summary.edits = (scenes input).length
  /-- The scenes that no other one follows within the window were put, each once and in order. -/
  puts : Puts e.library.records ((settled e.waiting.window (texts input)).map (d.id, ·)) answers
    report.editor.library.records
  counted : summary.writes = answers.countP (·.succeeded) ∧
    summary.failedWrites = answers.countP (!·.succeeded)
  total : summary.writes + summary.failedWrites =
    (settled e.waiting.window (texts input)).length
  idle : report.editor.waiting.isEmpty = true
  /-- If every write succeeded, the last scene is stored. -/
  saved [KeepsTexts σ] : (∀ answer ∈ answers, answer.result = .ok ()) → summary.failedWrites = 0 ∧
    ∀ time scene, (scenes input).getLast? = some (time, scene) →
      Records.get report.editor.library.records d.id.text = .ok (some (Content.toText ⟨scene⟩))
  /-- Without a scene the store stays as it was. -/
  untouched : summary.edits = 0 → report.editor.library = e.library

variable {e : Editor σ} {d : Descriptor} {input : List TimedLine}

/-- What a session hands to the store, when nothing waits any more. -/
private theorem attempts_callsWith {ended : Nat} {polls : List Nat}
    (before : (input.map TimedLine.time ++ [ended]).Pairwise (· ≤ ·))
    (after : (ended :: polls).Pairwise (· ≤ ·))
    (emptied : (Editor.after (opening e d) (callsWith input polls)).waiting.isEmpty = true) :
    attempts (opening e d) (callsWith input polls) =
      (settled e.waiting.window (texts input)).map (d.id, ·) := by
  have agrees := ledger_agrees (idle_opening e d) (callsWith input polls)
  have written : (ledger (opening e d) (callsWith input polls)).pending = [] := by
    rw [QuietQueue.isEmpty, agrees.pending_is_waiting, List.isEmpty_map] at emptied
    exact List.isEmpty_iff.mp emptied
  have settles := attempts_settled (active_opening e d) (loaded_opening e d) (idle_opening e d)
    (isEditing_callsWith input polls) (times_callsWith_ordered before after) written
  rw [settles, window_opening, writable_callsWith]

private theorem puts_callsWith (input : List TimedLine) (polls : List Nat) :
    Puts e.library.records (attempts (opening e d) (callsWith input polls))
      (outcomes (opening e d) (callsWith input polls))
      (Editor.after (opening e d) (callsWith input polls)).library.records := by
  have own : ∀ event ∈ (callsWith input polls : List (Event σ)), event.isElsewhere = false := by
    intro event member
    obtain ⟨now, rfl | ⟨m, rfl⟩⟩ := mem_callsWith member <;> rfl
  rw [← library_opening e d]
  exact puts_of_run (opening e d) own

private theorem getLast?_texts {time : Nat} {scene : Json}
    (last : (scenes input).getLast? = some (time, scene)) :
    ∃ before, texts input = before ++ [(time, Content.toText ⟨scene⟩)] := by
  obtain ⟨before, shape⟩ := List.getLast?_eq_some_iff.mp last
  exact ⟨_, by rw [texts, shape, List.map_append, List.map_singleton]⟩

/-- If all lines of the input are text and come one after the other, the session ends well: it has
printed the stored content on one line, it has counted the scenes as edits and written those that no
other one follows within the window, and nothing waits. If every write succeeded, the last scene is
what is stored. -/
theorem session_saves_last_scene (e : Editor σ) (d : Descriptor) (input : List TimedLine)
    (ended : Nat) (late : Nat → Nat) (legible : ∀ line ∈ input, line.text.isOk = true)
    (ordered : (input.map TimedLine.time ++ [ended]).Pairwise (· ≤ ·)) :
    ∃ summary answers, Completed e d input (run e d input ended late).value summary answers := by
  obtain ⟨polls, after, report, emptied⟩ := run_of_texts e d legible ended late
  have puts := puts_callsWith (e := e) (d := d) input polls
  rw [attempts_callsWith ordered after emptied] at puts
  have edited : (edits (opening e d) (callsWith input polls)).length = (scenes input).length := by
    have same := edits_of_loaded (active_opening e d) (loaded_opening e d)
      (isEditing_callsWith input polls)
    rw [writable_callsWith] at same
    simpa [texts] using congrArg List.length same
  have number : (outcomes (opening e d) (callsWith input polls)).length =
      (settled e.waiting.window (texts input)).length := by
    simpa using congrArg List.length puts.documents
  refine ⟨tally (opening e d) (callsWith input polls),
    outcomes (opening e d) (callsWith input polls), ?_⟩
  rw [report]
  constructor
  case result => rfl
  case printed => exact ⟨rfl, Json.newline_not_mem_compact _⟩
  case edits => exact edited
  case puts => exact puts
  case counted => exact ⟨rfl, rfl⟩
  case total =>
    rw [← number, List.length_eq_countP_add_countP WriteOutcome.succeeded]
    simp [tally]
  case idle => exact emptied
  case saved =>
    intro keeps ok
    constructor
    · have succeeded : ∀ answer ∈ outcomes (opening e d) (callsWith input polls),
          ¬ (!answer.succeeded) = true := by
        intro answer member
        simp [WriteOutcome.succeeded, ok answer member]
      exact List.countP_eq_zero.mpr succeeded
    · intro time scene last
      obtain ⟨before, shape⟩ := getLast?_texts last
      rw [shape, settled_concat, List.map_append, List.map_singleton] at puts
      exact get_of_puts puts fun answer final => ok answer (List.mem_of_getLast? final)
  case untouched =>
    intro unedited
    have empty : scenes input = [] := List.length_eq_zero_iff.mp (edited.symm.trans unedited)
    rw [texts, empty] at puts
    exact congrArg Library.mk puts.unchanged

/-- Three scenes, the second within the window of the first, among a blank line and one that is no
JSON. -/
def threeScenes : List TimedLine :=
  [⟨0, [0x5B, 0x31, 0x5D]⟩, ⟨3, []⟩, ⟨5, [0x5B, 0x32, 0x5D]⟩, ⟨7, [0x78]⟩, ⟨20, [0x5B, 0x33, 0x5D]⟩]

theorem threeScenes_saved :
    (∀ line ∈ threeScenes, line.text.isOk = true) ∧
      (threeScenes.map TimedLine.time ++ [20]).Pairwise (· ≤ ·) ∧
      ∃ summary answers,
        Completed blank sample threeScenes (run blank sample threeScenes 20).value summary answers ∧
        summary = ⟨3, 2, 0⟩ ∧
        Records.get (run blank sample threeScenes 20).value.editor.library.records sample.id.text =
          .ok (some "[3]") := by
  have legible : ∀ line ∈ threeScenes, line.text.isOk = true := by decide
  have ordered : (threeScenes.map TimedLine.time ++ [20]).Pairwise (· ≤ ·) := by decide
  obtain ⟨summary, answers, completed⟩ :=
    session_saves_last_scene blank sample threeScenes 20 (fun _ => 0) legible ordered
  have counted : (run blank sample threeScenes 20).value.result = .ok ⟨3, 2, 0⟩ := by rfl
  refine ⟨legible, ordered, summary, answers, completed, ?_, by rfl⟩
  exact Except.ok.inj (completed.result.symm.trans counted)

/-! ### When the input goes bad -/

/-- The lines of an input before the first that is no text. -/
def legible (input : List TimedLine) : List TimedLine := input.takeWhile (·.text.isOk)

omit [Records σ] in
private theorem legible_cases (input : List TimedLine) :
    (∀ line ∈ legible input, line.text.isOk = true) ∧
      ((legible input = input ∧ ∀ line ∈ input, line.text.isOk = true) ∨
        ∃ bad error rest, input = legible input ++ bad :: rest ∧ bad.text = .error error) := by
  have front : ∀ line ∈ legible input, line.text.isOk = true := fun line member =>
    List.all_eq_true.mp List.all_takeWhile line member
  refine ⟨front, ?_⟩
  have whole : legible input ++ input.dropWhile (·.text.isOk) = input :=
    List.takeWhile_append_dropWhile
  cases left : input.dropWhile (·.text.isOk) with
  | nil =>
    rw [left, List.append_nil] at whole
    exact Or.inl ⟨whole, fun line member => front line (whole.symm ▸ member)⟩
  | cons bad rest =>
    have illegible := List.head?_dropWhile_not (fun line : TimedLine => line.text.isOk) input
    rw [left] at whole illegible
    cases given : bad.text with
    | ok text => simp [given, Except.isOk, Except.toBool] at illegible
    | error error => exact Or.inr ⟨bad, error, rest, whole.symm, given⟩

/-- Every text that a run of a session puts is put for its document. -/
private theorem own_of_attempts (input : List TimedLine) (polls : List Nat) :
    ∀ entry ∈ attempts (opening e d) (callsWith input polls), entry.1 = d.id := by
  intro entry member
  rw [attempts_eq_written (idle_opening e d)] at member
  obtain ⟨edit, written, rfl⟩ := List.mem_map.mp member
  exact edits_own (active_opening e d) (loaded_opening e d) (isEditing_callsWith input polls)
    (mem_edits_of_written written)

/-- A session puts texts for its document only, whatever its input is and whatever the clock says. -/
theorem puts_run (e : Editor σ) (d : Descriptor) (input : List TimedLine) (ended : Nat)
    (late : Nat → Nat) : ∃ due answers, Puts e.library.records due answers
      (run e d input ended late).value.editor.library.records ∧ ∀ entry ∈ due, entry.1 = d.id := by
  obtain ⟨front, ⟨_, all⟩ | ⟨bad, error, rest, split, illegible⟩⟩ := legible_cases input
  · obtain ⟨polls, _, report, _⟩ := run_of_texts e d all ended late
    rw [report]
    exact ⟨_, _, puts_callsWith input polls, own_of_attempts input polls⟩
  · have report := run_of_bad e d front illegible rest ended late
    rw [← split] at report
    rw [report]
    exact ⟨_, _, puts_callsWith (legible input) [], own_of_attempts (legible input) []⟩

/-- A loaded document takes a scene as an edit with the deadline of its line. -/
private theorem ledger_scene {o : Editor σ} {events : List (Event σ)}
    (active : o.active = some d) (loaded : o.content.isSome = true)
    (calls : ∀ event ∈ events, event.isEditing = true) {line : TimedLine} {scene : Json}
    (given : line.scene? = some scene) :
    ∃ edit : Edit, edit.time = line.time ∧ edit.deadline = line.time + o.waiting.window ∧
      ledger o (events ++ [.change (.ofJson scene) line.time]) = (ledger o events).take edit := by
  obtain ⟨there, content⟩ := loaded_after active loaded calls
  have entered := edit?_of_loaded
    (s := ⟨events.length, after o events, .change (.ofJson scene) line.time⟩) there content rfl
  rw [textOf?_scene given, Option.map_some, window_after] at entered
  refine ⟨⟨events.length, d.id, Content.toText ⟨scene⟩, line.time, line.time + o.waiting.window⟩,
    rfl, rfl, ?_⟩
  rw [ledger_concat]
  simp only [Ledger.record, entered]

/-- After a line with a scene its edit alone waits. -/
private theorem pending_scene {o : Editor σ} {events : List (Event σ)}
    (active : o.active = some d) (loaded : o.content.isSome = true)
    (calls : ∀ event ∈ events, event.isEditing = true) {line : TimedLine} {scene : Json}
    (given : line.scene? = some scene) :
    ∃ edit : Edit, edit.deadline = line.time + o.waiting.window ∧
      (ledger o (events ++ callsOf line)).pending = [edit] := by
  have polled : ∀ event ∈ events ++ [Event.poll line.time], event.isEditing = true := by
    intro event member
    rcases List.mem_append.mp member with inside | last
    · exact calls event inside
    · rw [List.mem_singleton.mp last]
      rfl
  obtain ⟨edit, time, deadline, taken⟩ := ledger_scene active loaded polled given
  have shape : events ++ callsOf line =
      events ++ [.poll line.time] ++ [.change (.ofJson scene) line.time] := by
    simp [callsOf, given]
  have collected : ledger o (events ++ [.poll line.time]) = (ledger o events).collect line.time :=
    ledger_concat o events (.poll line.time)
  refine ⟨edit, deadline, ?_⟩
  rw [shape, taken, collected]
  -- The collection has left nothing, or one edit that the new one supersedes.
  rcases List.eq_nil_or_concat' (ledger o events).pending with nothing | ⟨early, last, parts⟩
  · simp [Ledger.collect, Ledger.take, nothing]
  · by_cases due : last.deadline ≤ line.time
    · simp [Ledger.collect, Ledger.take, parts, due]
    · have inside : line.time < last.deadline := Nat.lt_of_not_le due
      simp [Ledger.collect, Ledger.take, parts, due, time, inside]

/-- Of lines without a scene each is a poll, and the first that comes late enough writes the edit. -/
private theorem pending_blank {o : Editor σ} {events : List (Event σ)} {edit : Edit}
    (waits : (ledger o events).pending = [edit]) {lines : List TimedLine}
    (blank : ∀ line ∈ lines, line.scene? = none) :
    (ledger o (events ++ calls lines)).pending =
      if ∃ line ∈ lines, edit.deadline ≤ line.time then [] else [edit] := by
  induction lines using List.reverseRecOn with
  | nil => simpa [calls] using waits
  | append_singleton lines line ih =>
    have sceneless := blank line (by simp)
    have shape : events ++ calls (lines ++ [line]) =
        events ++ calls lines ++ [Event.poll (σ := σ) line.time] := by
      simp [calls, callsOf, sceneless]
    have before := ih fun other member => blank other (List.mem_append_left _ member)
    have either : (∃ one ∈ lines ++ [line], edit.deadline ≤ one.time) ↔
        (∃ one ∈ lines, edit.deadline ≤ one.time) ∨ edit.deadline ≤ line.time := by
      simp [or_and_right, exists_or]
    rw [shape, ledger_concat]
    simp only [Ledger.record, Ledger.collect, before, either]
    by_cases earlier : ∃ one ∈ lines, edit.deadline ≤ one.time
    · simp only [earlier, ↓reduceIte, List.getLast?_nil, true_or]
      exact before.trans (if_pos earlier)
    · by_cases due : edit.deadline ≤ line.time <;> simp [earlier, due]

/-- The last scene is the last text that was handed to the store, or the last that waits. -/
private theorem last_callsWith (lines : List TimedLine) (polls : List Nat) :
    (attempts (opening e d) (callsWith lines polls) ++
      (after (opening e d) (callsWith lines polls)).waiting.entries.map
        QuietQueue.payloadOf).getLast? = (texts lines).getLast?.map fun edit => (d.id, edit.2) := by
  have stays : ∀ event ∈ (callsWith lines polls : List (Event σ)), event.leaves = false := by
    intro event member
    obtain ⟨now, rfl | ⟨m, rfl⟩⟩ := mem_callsWith member <;> rfl
  have waits := (ledger_agrees (idle_opening e d) (callsWith lines polls)).pending_is_waiting
  have whole : attempts (opening e d) (callsWith lines polls) ++
      (after (opening e d) (callsWith lines polls)).waiting.entries.map QuietQueue.payloadOf =
        ((ledger (opening e d) (callsWith lines polls)).written ++
          (ledger (opening e d) (callsWith lines polls)).pending).map Edit.entry := by
    rw [attempts_eq_written (idle_opening e d), waits, List.map_map, List.map_append]
    rfl
  have named : ∀ edit ∈ edits (opening e d) (callsWith lines polls),
      edit.entry = (d.id, edit.text) := by
    intro edit member
    rw [Edit.entry, edits_own (active_opening e d) (loaded_opening e d)
      (isEditing_callsWith lines polls) member]
  have given := edits_of_loaded (active_opening e d) (loaded_opening e d)
    (isEditing_callsWith lines polls)
  rw [writable_callsWith] at given
  rw [whole, List.getLast?_map, last_of_stays stays, ← List.getLast?_map,
    List.map_congr_left named, ← given, List.getLast?_map, List.getLast?_map, Option.map_map]
  rfl

/-- How a session ends, whatever its input is and whatever the clock says. -/
structure Ended (e : Editor σ) (d : Descriptor) (input : List TimedLine) (report : SessionReport σ)
    (due : List (DocumentId × String)) (answers : List WriteOutcome) : Prop where
  /-- It ends well if and only if all lines are text. -/
  result : report.result.isOk = true ↔ ∀ line ∈ input, line.text.isOk = true
  puts : Puts e.library.records due answers report.editor.library.records
  /-- Of the lines that are text up to the first that is not, the last scene was put last, or it is
  the last that waits. -/
  last : (due ++ report.editor.waiting.entries.map QuietQueue.payloadOf).getLast? =
    (texts (legible input)).getLast?.map fun edit => (d.id, edit.2)
  /-- Nothing waits after a session that ends well. -/
  idle : report.result.isOk = true → report.editor.waiting.isEmpty = true
  /-- Otherwise nothing waits if and only if a line came after the last scene when its window had
  passed. -/
  lost : report.result.isOk = false → ∀ before last after scene,
    legible input = before ++ last :: after → last.scene? = some scene →
    (∀ line ∈ after, line.scene? = none) →
    (report.editor.waiting.isEmpty = true ↔ ∃ line ∈ after, last.time + e.waiting.window ≤ line.time)

private theorem isEmpty_calls {before after : List TimedLine} {last : TimedLine} {scene : Json}
    (given : last.scene? = some scene) (blank : ∀ line ∈ after, line.scene? = none) :
    (Editor.after (opening e d) (callsWith (before ++ last :: after) [])).waiting.isEmpty = true ↔
      ∃ line ∈ after, last.time + e.waiting.window ≤ line.time := by
  have calls_editing : ∀ event ∈ (calls before : List (Event σ)), event.isEditing = true := by
    intro event member
    exact isEditing_callsWith before [] event (List.mem_append_left _ member)
  obtain ⟨edit, deadline, alone⟩ :=
    pending_scene (active_opening e d) (loaded_opening e d) calls_editing given
  have pending := pending_blank alone blank
  have shape : callsWith (before ++ last :: after) [] =
      calls before ++ callsOf last ++ (calls after : List (Event σ)) := by
    simp [callsWith, calls]
  have waits := (ledger_agrees (idle_opening e d)
    (calls before ++ callsOf last ++ calls after)).pending_is_waiting
  rw [shape, QuietQueue.isEmpty, waits, List.isEmpty_map, pending, deadline, window_opening]
  split
  · next late => simp [late]
  · next early => simp [early]

/-- A session over text hands its last scene to the store, and nothing waits in the end. A line that
is no text ends the session at once, and then the last scene is lost unless another line has come
when its window had passed. -/
theorem bad_input_loses_last_scene_iff (e : Editor σ) (d : Descriptor) (input : List TimedLine)
    (ended : Nat) (late : Nat → Nat) :
    ∃ due answers, Ended e d input (run e d input ended late).value due answers := by
  obtain ⟨front, ⟨whole, all⟩ | ⟨bad, error, rest, split, illegible⟩⟩ := legible_cases input
  · obtain ⟨polls, _, report, emptied⟩ := run_of_texts e d all ended late
    have last := last_callsWith (e := e) (d := d) input polls
    refine ⟨attempts (opening e d) (callsWith input polls),
      outcomes (opening e d) (callsWith input polls), ?_⟩
    rw [report]
    constructor
    case result => exact iff_of_true rfl all
    case puts => exact puts_callsWith input polls
    case last => rw [whole, last]
    case idle => exact fun _ => emptied
    case lost => exact fun bad => nomatch bad
  · have report := run_of_bad e d front illegible rest ended late
    rw [← split] at report
    have last := last_callsWith (e := e) (d := d) (legible input) []
    refine ⟨attempts (opening e d) (callsWith (legible input) []),
      outcomes (opening e d) (callsWith (legible input) []), ?_⟩
    rw [report]
    constructor
    case result =>
      refine iff_of_false (fun well => nomatch well) fun all => ?_
      have well := all bad (by rw [split]; simp)
      rw [illegible] at well
      cases well
    case puts => exact puts_callsWith (legible input) []
    case last => exact last
    case idle => exact fun well => nomatch well
    case lost =>
      intro _ before line after scene shape given blank
      rw [shape]
      exact isEmpty_calls given blank

/-- A scene, and a line that is no text before the window of the scene has passed. -/
def sceneAndBadLine : List TimedLine := [⟨0, [0x5B, 0x31, 0x5D]⟩, ⟨0, [0xFF]⟩]

/-- The scene is taken, but it is not stored and waits for ever. -/
theorem sceneAndBadLine_loses_scene :
    scenes sceneAndBadLine ≠ [] ∧
      (run blank sample sceneAndBadLine 0).value.result.isOk = false ∧
      (run blank sample sceneAndBadLine 0).value.editor.waiting.entries = [(sample.id, ⟨10, "[1]"⟩)] ∧
      (run blank sample sceneAndBadLine 0).value.editor.library.records.entries.get? sample.id.text =
        none := by
  decide

end Sketchbook.Session
