import Sketchbook.Proofs.Autosave.Draining
import Sketchbook.Proofs.Autosave.Polling
import Sketchbook.Proofs.Document.Content

/-!
A session as a run of its editor. Each line is a poll, and an edit if it has a scene; when the input
has ended more polls follow until nothing waits (`run_of_texts`). A line that is no text ends the run
where it stands (`run_of_bad`). The session holds the editor that these calls leave and counts what
they did, so that all that is known of runs is known of sessions.
-/
namespace Sketchbook

/-- The scene of a line: the value of its text, if the line is not blank and its text is JSON. -/
def TimedLine.scene? (line : TimedLine) : Option Json :=
  match line.text with
  | .ok text => if Text.trim text = "" then none else (Json.read (Text.trim text)).toOption
  | .error _ => none

/-- Whether a write succeeded. -/
def WriteOutcome.succeeded (o : WriteOutcome) : Bool :=
  match o.result with
  | .ok () => true
  | .error _ => false

namespace Session

open Editor

variable {σ : Type}

/-- The scenes of an input, each with its time. -/
def scenes (input : List TimedLine) : List (Nat × Json) :=
  input.filterMap fun line => line.scene?.map (line.time, ·)

/-- The texts of the scenes, as they are written. -/
def texts (input : List TimedLine) : List (Nat × String) :=
  (scenes input).map fun scene => (scene.1, Content.toText ⟨scene.2⟩)

/-- The calls of an editor for a line. -/
def callsOf (line : TimedLine) : List (Event σ) :=
  .poll line.time :: (line.scene?.map fun scene => .change (.ofJson scene) line.time).toList

/-- The calls of an editor for an input. -/
def calls (input : List TimedLine) : List (Event σ) := input.flatMap callsOf

/-- The same with the polls that follow the input. -/
def callsWith (input : List TimedLine) (polls : List Nat) : List (Event σ) :=
  calls input ++ polls.map .poll

/-! ### Scenes are edits -/

/-- A scene can be written: it is its own content. -/
theorem textOf?_scene {line : TimedLine} {scene : Json} (given : line.scene? = some scene) :
    textOf? (.ofJson scene) = some (Content.toText ⟨scene⟩) := by
  have read : ∃ text, Json.read text = .ok scene := by
    unfold TimedLine.scene? at given
    split at given
    · next text _ =>
      split at given
      · cases given
      · cases answer : Json.read (Text.trim text) with
        | ok value =>
          rw [answer] at given
          obtain rfl := Option.some.inj given
          exact ⟨_, answer⟩
        | error e =>
          rw [answer] at given
          cases given
    · cases given
  obtain ⟨text, read⟩ := read
  rw [textOf?, Content.ofModel_ofJson (Json.sound_read read)]
  rfl

private theorem writable_calls (input : List TimedLine) :
    writable (calls input : List (Event σ)) = texts input := by
  induction input with
  | nil => rfl
  | cons line rest ih =>
    have split : writable (calls (line :: rest) : List (Event σ)) =
        writable (callsOf line : List (Event σ)) ++ writable (calls rest : List (Event σ)) :=
      List.filterMap_append
    rw [split, ih]
    cases given : line.scene? with
    | none => simp [callsOf, writable, texts, scenes, given]
    | some scene =>
      simp [callsOf, writable, texts, scenes, given, textOf?_scene given]

/-- The edits of a session are the texts of its scenes. -/
theorem writable_callsWith (input : List TimedLine) (polls : List Nat) :
    writable (callsWith input polls : List (Event σ)) = texts input := by
  have silent : writable (polls.map .poll : List (Event σ)) = [] := by
    induction polls with
    | nil => rfl
    | cons now rest ih => exact ih
  have split : writable (callsWith input polls : List (Event σ)) =
      writable (calls input : List (Event σ)) ++ writable (polls.map .poll : List (Event σ)) :=
    List.filterMap_append
  rw [split, writable_calls, silent, List.append_nil]

private theorem mem_callsOf {line : TimedLine} {event : Event σ} (member : event ∈ callsOf line) :
    event = .poll line.time ∨ ∃ m, event = .change m line.time := by
  cases given : line.scene? with
  | none => exact Or.inl (by simpa [callsOf, given] using member)
  | some scene =>
    have either : event = .poll line.time ∨ event = .change (.ofJson scene) line.time := by
      simpa [callsOf, given] using member
    exact either.imp id fun edit => ⟨_, edit⟩

/-- A session only polls and edits. -/
theorem mem_callsWith {input : List TimedLine} {polls : List Nat} {event : Event σ}
    (member : event ∈ (callsWith input polls : List (Event σ))) :
    ∃ now, event = .poll now ∨ ∃ m, event = .change m now := by
  rcases List.mem_append.mp member with inside | after
  · obtain ⟨line, _, own⟩ := List.mem_flatMap.mp inside
    exact ⟨line.time, mem_callsOf own⟩
  · obtain ⟨now, _, rfl⟩ := List.mem_map.mp after
    exact ⟨now, Or.inl rfl⟩

theorem isEditing_callsWith (input : List TimedLine) (polls : List Nat) :
    ∀ event ∈ (callsWith input polls : List (Event σ)), event.isEditing = true := by
  intro event member
  obtain ⟨now, rfl | ⟨m, rfl⟩⟩ := mem_callsWith member <;> rfl

private theorem mem_times_calls {input : List TimedLine} {time : Nat}
    (member : time ∈ (calls input : List (Event σ)).filterMap Event.time?) :
    time ∈ input.map TimedLine.time := by
  obtain ⟨event, inside, given⟩ := List.mem_filterMap.mp member
  obtain ⟨line, there, own⟩ := List.mem_flatMap.mp inside
  have self : line.time = time := by
    rcases mem_callsOf own with rfl | ⟨m, rfl⟩ <;> exact Option.some.inj given
  rw [← self]
  exact List.mem_map_of_mem there

/-- The calls are made at the times of their lines, in order. -/
private theorem times_calls_ordered {input : List TimedLine} {later : List Nat}
    (ordered : (input.map TimedLine.time ++ later).Pairwise (· ≤ ·)) :
    ((calls input : List (Event σ)).filterMap Event.time? ++ later).Pairwise (· ≤ ·) := by
  induction input with
  | nil => exact ordered
  | cons line rest ih =>
    obtain ⟨least, inOrder⟩ := List.pairwise_cons.mp ordered
    have others := ih inOrder
    have first : ∀ time ∈ (calls rest : List (Event σ)).filterMap Event.time? ++ later,
        line.time ≤ time := by
      intro time member
      apply least
      rcases List.mem_append.mp member with inside | after
      · exact List.mem_append_left _ (mem_times_calls inside)
      · exact List.mem_append_right _ after
    have once := List.pairwise_cons.mpr ⟨first, others⟩
    cases given : line.scene? with
    | none => simpa [calls, callsOf, given, Event.time?] using once
    | some scene =>
      have twice : (line.time :: line.time :: ((calls rest : List (Event σ)).filterMap Event.time? ++
          later)).Pairwise (· ≤ ·) := by
        refine List.pairwise_cons.mpr ⟨fun time member => ?_, once⟩
        rcases List.mem_cons.mp member with rfl | inside
        · exact Nat.le_refl _
        · exact first time inside
      simpa [calls, callsOf, given, Event.time?] using twice

/-- If the lines come in order and then the input ends, no call is made before the one before it. -/
theorem times_callsWith_ordered {input : List TimedLine} {ended : Nat} {polls : List Nat}
    (before : (input.map TimedLine.time ++ [ended]).Pairwise (· ≤ ·))
    (after : (ended :: polls).Pairwise (· ≤ ·)) :
    ((callsWith input polls : List (Event σ)).filterMap Event.time?).Pairwise (· ≤ ·) := by
  obtain ⟨lines, _, last⟩ := List.pairwise_append.mp before
  obtain ⟨least, inOrder⟩ := List.pairwise_cons.mp after
  have whole : (input.map TimedLine.time ++ polls).Pairwise (· ≤ ·) := by
    refine List.pairwise_append.mpr ⟨lines, inOrder, fun early member late there => ?_⟩
    exact Nat.le_trans (last early member ended (by simp)) (least late there)
  have times : (polls.map .poll : List (Event σ)).filterMap Event.time? = polls := by
    rw [List.filterMap_map]
    exact List.filterMap_some
  rw [callsWith, List.filterMap_append, times]
  exact times_calls_ordered whole

/-! ### What a session holds -/

variable [Records σ]

/-- What the events of a run come to. -/
def tally (e : Editor σ) (events : List (Event σ)) : SessionSummary where
  edits := (edits e events).length
  writes := (outcomes e events).countP (·.succeeded)
  failedWrites := (outcomes e events).countP (!·.succeeded)

/-- The session whose editor has made a run. -/
def ofRun (e : Editor σ) (events : List (Event σ)) : Session σ := ⟨after e events, tally e events⟩

omit [Records σ] in
private theorem foldl_countWrite (more : List WriteOutcome) (s : SessionSummary) :
    more.foldl .countWrite s =
      { s with writes := s.writes + more.countP (·.succeeded),
               failedWrites := s.failedWrites + more.countP (!·.succeeded) } := by
  induction more generalizing s with
  | nil => rfl
  | cons outcome rest ih =>
    obtain ⟨document, result⟩ := outcome
    rw [List.foldl_cons, ih]
    cases result with
    | ok _ =>
      simp [SessionSummary.countWrite, WriteOutcome.succeeded]
      omega
    | error _ =>
      simp [SessionSummary.countWrite, WriteOutcome.succeeded]
      omega

/-- A poll of the session is a poll of its editor. -/
theorem value_poll_ofRun (e : Editor σ) (events : List (Event σ)) (now : Nat) :
    ((ofRun e events).poll now).value = ofRun e (events ++ [.poll now]) := by
  simp only [poll, ofRun, Noted.value_bind, Noted.value_pure, foldl_countWrite, tally,
    outcomes_concat, edits_concat, after_concat, step, Step.edit?, List.countP_append,
    Option.toList_none, List.append_nil]

private theorem value_change_ofRun (e : Editor σ) (events : List (Event σ)) (m : Model) (now : Nat) :
    let answer := ((after e events).change m now).value
    ofRun e (events ++ [.change m now]) =
      ⟨answer.2, if answer.1 then { tally e events with edits := (tally e events).edits + 1 }
        else tally e events⟩ := by
  have taken : ((after e events).change m now).value.1 =
      (Step.edit? ⟨events.length, after e events, .change m now⟩).isSome :=
    taken_change (s := ⟨events.length, after e events, .change m now⟩) rfl
  simp only [ofRun, tally, outcomes_concat, edits_concat, after_concat, step, List.append_nil, taken]
  cases Step.edit? ⟨events.length, after e events, .change m now⟩ <;> simp

/-- A line of text is a poll, and an edit if it has a scene. -/
theorem value_takeLine_ofRun (e : Editor σ) (events : List (Event σ)) {line : TimedLine}
    {text : String} (given : line.text = .ok text) :
    ((ofRun e events).takeLine text line.time).value = ofRun e (events ++ callsOf line) := by
  have blank : Text.trim text = "" → ∃ e, Json.read (Text.trim text) = .error e := by
    intro empty
    rw [empty]
    exact ⟨_, rfl⟩
  simp only [takeLine, Noted.value_bind, value_poll_ofRun]
  cases read : Json.read (Text.trim text) with
  | error e =>
    have sceneless : line.scene? = none := by
      simp [TimedLine.scene?, given, read, Except.toOption]
    simp [callsOf, sceneless]
  | ok scene =>
    have visible : Text.trim text ≠ "" := by
      intro empty
      obtain ⟨e, refused⟩ := blank empty
      cases read.symm.trans refused
    have scened : line.scene? = some scene := by
      simp [TimedLine.scene?, given, read, visible, Except.toOption]
    have shape : events ++ callsOf line =
        events ++ [.poll line.time] ++ [.change (.ofJson scene) line.time] := by
      simp [callsOf, scened]
    rw [shape, value_change_ofRun]
    rfl

/-- As long as lines are text they are taken one after the other. -/
private theorem value_takeLines_ofRun (e : Editor σ) (events : List (Event σ))
    {lines : List TimedLine} (legible : ∀ line ∈ lines, line.text.isOk = true)
    (rest : List TimedLine) :
    ((ofRun e events).takeLines (lines ++ rest)).value =
      ((ofRun e (events ++ calls lines)).takeLines rest).value := by
  induction lines generalizing events with
  | nil => simp [calls]
  | cons line lines ih =>
    have others : ∀ line ∈ lines, line.text.isOk = true := fun other member =>
      legible other (List.mem_cons_of_mem _ member)
    have first := legible line List.mem_cons_self
    cases given : line.text with
    | error e =>
      rw [given] at first
      cases first
    | ok text =>
      rw [List.cons_append, takeLines, given]
      simp only [Noted.value_bind, value_takeLine_ofRun e events given]
      rw [ih _ others, List.append_assoc]
      rfl

/-! ### What follows the input -/

/-- The waits after the input are polls, each at the time of the one before it or later. -/
private theorem value_drain_ofRun (e : Editor σ) (events : List (Event σ)) (late : Nat → Nat)
    (now fuel : Nat) : ∃ polls : List Nat, (now :: polls).Pairwise (· ≤ ·) ∧
      ((ofRun e events).drain late now fuel).value = ofRun e (events ++ polls.map .poll) := by
  induction fuel generalizing events now with
  | zero => exact ⟨[], List.pairwise_singleton _ _, by simp [drain]⟩
  | succ fuel ih =>
    rw [drain]
    split
    · exact ⟨[], List.pairwise_singleton _ _, by simp⟩
    · next deadline _ =>
      obtain ⟨polls, ordered, rest⟩ :=
        ih (events ++ [.poll (max now deadline + late fuel)]) (max now deadline + late fuel)
      refine ⟨(max now deadline + late fuel) :: polls, ?_, ?_⟩
      · refine List.pairwise_cons.mpr ⟨fun time member => ?_, ordered⟩
        rcases List.mem_cons.mp member with rfl | later
        · omega
        · have least := (List.pairwise_cons.mp ordered).1 time later
          omega
      · simp only [Noted.value_bind, value_poll_ofRun, rest]
        simp

/-! ### Whole sessions -/

/-- The editor with which a session begins: it shows what is stored, and nothing waits. -/
def opening (e : Editor σ) (d : Descriptor) : Editor σ := (e.open d).value

private theorem value_start (e : Editor σ) (d : Descriptor) :
    (start e d).value = ofRun (opening e d) [] := rfl

private theorem content_opening (e : Editor σ) (d : Descriptor) :
    (ofRun (opening e d) []).content = shown (e.library.get d.id) := by
  simp [content, ofRun, opening]

/-- A session over text makes the calls of all its lines and then polls until nothing waits. -/
theorem run_of_texts (e : Editor σ) (d : Descriptor) {input : List TimedLine}
    (legible : ∀ line ∈ input, line.text.isOk = true) (ended : Nat) (late : Nat → Nat) :
    ∃ polls : List Nat, (ended :: polls).Pairwise (· ≤ ·) ∧
      (run e d input ended late).value =
        ⟨(shown (e.library.get d.id)).toText,
          .ok (tally (opening e d) (callsWith input polls)),
          after (opening e d) (callsWith input polls)⟩ ∧
      (after (opening e d) (callsWith input polls)).waiting.isEmpty = true := by
  have lines := value_takeLines_ofRun (opening e d) [] legible []
  rw [List.append_nil, List.nil_append] at lines
  obtain ⟨polls, ordered, drained⟩ := value_drain_ofRun (opening e d) (calls input) late ended
    (ofRun (opening e d) (calls input)).editor.waiting.size
  obtain ⟨_, _, idle⟩ := drains_drain (ofRun (opening e d) (calls input)) late ended (Nat.le_refl _)
  have emptied := QuietQueue.isEmpty_iff_nextDeadline.mpr idle
  rw [drained] at emptied
  refine ⟨polls, ordered, ?_, emptied⟩
  simp only [run, Noted.value_bind, value_start, lines, content_opening, takeLines, Noted.value_pure,
    finish, drained]
  rfl

/-- A session ends at the first line that is no text, as the lines before it have left it. -/
theorem run_of_bad (e : Editor σ) (d : Descriptor) {lines : List TimedLine} {bad : TimedLine}
    {error : DiskError} (legible : ∀ line ∈ lines, line.text.isOk = true)
    (illegible : bad.text = .error error) (rest : List TimedLine) (ended : Nat)
    (late : Nat → Nat) :
    (run e d (lines ++ bad :: rest) ended late).value =
      ⟨(shown (e.library.get d.id)).toText, .error error,
        after (opening e d) (callsWith lines [])⟩ := by
  have taken := value_takeLines_ofRun (opening e d) [] legible (bad :: rest)
  rw [List.nil_append] at taken
  simp only [run, Noted.value_bind, value_start, taken, content_opening, takeLines, illegible,
    Noted.value_pure, callsWith, List.map_nil, List.append_nil]
  rfl

end Session

end Sketchbook
