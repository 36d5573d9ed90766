import Sketchbook.Proofs.Autosave.Convergence
import Sketchbook.Proofs.Document.Content

/-!
Opening a document again after its last edit was saved. The edit is there again if and only if its
content is one that JSON text gives back; what is nested too deep is replaced by the empty scene
(`reopening_restores_iff`).
-/
namespace Sketchbook.Editor

variable {σ : Type} [Records σ]

/-- An edit is taken and saved, and no later one is written: the last text that the run handed to the
store was the edit's, and the last answer was that it is there. Since the edit nobody else acts on
the store. -/
structure SavedLast (e : Editor σ) (prior : List (Event σ)) (m : Model) (now : Nat)
    (later : List (Event σ)) : Prop where
  accepted : ((after e prior).step (.change m now)).1.taken = true
  alone : ∀ event ∈ later, event.isElsewhere = false
  last : (ledger e (prior ++ .change m now :: later)).written.getLast?.map Edit.serial =
    some prior.length
  saved : (outcomes e (prior ++ .change m now :: later)).getLast?.map WriteOutcome.result =
    some (.ok ())

/-- What is shown for the text of content is that content if and only if it is not nested too deep
and each of its floats survives. -/
private theorem shown_toText {m : Model} {content : Content} (made : Content.ofModel m = .ok content) :
    (shown (Content.ofText content.toText) == content) = true ↔
      content.value.depth ≤ Json.levelLimit ∧
        ∀ x ∈ content.value.floats, (Json.number (.float x)).survives = true := by
  have formed := Content.wellFormed_ofModel made
  rw [← Json.survives_iff formed]
  unfold Content.ofText Content.toText Json.survives
  cases answer : Json.read content.value.compact with
  | ok again => rfl
  | error e =>
    simp only [shown, Bool.false_eq_true, iff_false]
    intro same
    have empty := Content.eq_emptyScene same
    have survives : Content.emptyScene.value.survives = true := by
      rw [← empty, Json.survives_iff formed, empty]
      decide
    simp [Json.survives, ← empty, answer] at survives

private theorem shown_deep {m : Model} {content : Content} (made : Content.ofModel m = .ok content)
    (deep : Json.levelLimit < content.value.depth) :
    shown (Content.ofText content.toText) = .emptyScene := by
  obtain ⟨e, refused⟩ := Json.read_deep (Content.wellFormed_ofModel made) deep
  simp [Content.ofText, Content.toText, refused, shown]

variable {e : Editor σ} {prior later : List (Event σ)} {m : Model} {now : Nat}

/-- The store answers the edit that was saved last. -/
private theorem get_of_savedLast [KeepsTexts σ] (idle : e.waiting.isEmpty = true) {edit : Edit}
    (alone : ∀ event ∈ later, event.isElsewhere = false)
    (last : (ledger e (prior ++ .change m now :: later)).written.getLast? = some edit)
    (serial : edit.serial = prior.length)
    (saved : (outcomes e (prior ++ .change m now :: later)).getLast?.map WriteOutcome.result =
      some (.ok ())) :
    Records.get (after e (prior ++ .change m now :: later)).library.records edit.document.text =
      .ok (some edit.text) := by
  induction later using List.reverseRecOn with
  | nil =>
    -- The edit itself writes nothing, and all that was written before it is older.
    rw [ledger_concat, Ledger.written_change] at last
    have earlier := serial_lt_of_mem_edits (mem_edits_of_written (List.mem_of_getLast? last))
    omega
  | append_singleton later event ih =>
    have shape : prior ++ .change m now :: (later ++ [event]) =
        prior ++ .change m now :: later ++ [event] := by simp
    rw [shape] at last saved ⊢
    rw [ledger_concat] at last
    rw [outcomes_concat] at saved
    rw [after_concat]
    generalize whole : prior ++ .change m now :: later = events at *
    obtain ⟨moved, written, _⟩ :=
      (ledger e events).written_record ⟨events.length, after e events, event⟩
    have attempts := (ledger_agrees idle events).attempts_of_moved
      (s := ⟨events.length, after e events, event⟩) written
    have puts := puts_of_step ⟨events.length, after e events, event⟩ (alone event (by simp))
    rw [attempts] at puts
    rw [written] at last
    simp only [Step.reply, Step.after] at puts
    rcases List.eq_nil_or_concat' moved with rfl | ⟨front, final, rfl⟩
    · generalize ((after e events).step event).1.outcomes = answers at saved puts
      generalize ((after e events).step event).2.library.records = records at puts ⊢
      cases puts
      rw [List.append_nil] at last saved
      exact ih (fun event member => alone event (List.mem_append_left _ member)) last saved
    · obtain rfl : final = edit := by simpa using last
      rw [List.map_append] at puts
      refine get_of_puts puts fun answer found => ?_
      rw [List.getLast?_append, found] at saved
      simpa using saved

/-- Opening the document of the edit that was saved last shows what its text is read as. -/
private theorem open_of_savedLast [KeepsTexts σ] (idle : e.waiting.isEmpty = true)
    (saved : SavedLast e prior m now later) : ∃ d content, (after e prior).active = some d ∧
      Content.ofModel m = .ok content ∧ ∀ d' window, d'.id = d.id →
        ((ofLibrary (after e (prior ++ .change m now :: later)).library window).open d').value.content =
          some (shown (Content.ofText content.toText)) := by
  obtain ⟨accepted, alone, last, ok⟩ := saved
  obtain ⟨edit, written, serial⟩ := Option.map_eq_some_iff.mp last
  have held := get_of_savedLast idle alone written serial ok
  obtain ⟨s, inside, entered⟩ := mem_edits.mp (mem_edits_of_written (List.mem_of_getLast? written))
  have change : (⟨prior.length, after e prior, .change m now⟩ : Step σ) ∈
      steps e (prior ++ .change m now :: later) :=
    mem_steps.mpr ⟨prior, later, rfl, rfl, rfl⟩
  obtain rfl := step_eq_of_serial inside change ((takes_of_edit? entered).1.serial.symm.trans serial)
  rcases change_cases prior.length (after e prior) m now with
    ⟨idle, _⟩ | ⟨d, content, text, active, encoded, edited, _⟩
  · cases idle.symm.trans entered
  · obtain rfl := Option.some.inj (edited.symm.trans entered)
    obtain ⟨made, told⟩ := encode_eq_ok.mp encoded
    refine ⟨d, content, active, made, fun d' window same => ?_⟩
    have got : (after e (prior ++ .change m now :: later)).library.get d.id =
        Content.ofText content.toText := by
      simp only at held
      simp only [Library.get, held, told, bind, Except.bind]
    rw [value_open, same]
    exact congrArg (fun answer => Option.some (shown answer)) got

/-- A document whose last edit was saved is opened again. What is shown is the edit's content if and
only if that is not nested too deep and each of its floats survives; if it is nested too deep, the
empty scene is shown. -/
theorem reopening_restores_iff [KeepsTexts σ] (library : Library σ) (window : Nat)
    (prior : List (Event σ)) (m : Model) (now : Nat) (later : List (Event σ))
    (saved : SavedLast (ofLibrary library window) prior m now later) :
    ∃ d content reopened, (after (ofLibrary library window) prior).active = some d ∧
      Content.ofModel m = .ok content ∧
      (∀ d' window', d'.id = d.id →
        ((ofLibrary (after (ofLibrary library window) (prior ++ .change m now :: later)).library
          window').open d').value.content = some reopened) ∧
      ((reopened == content) = true ↔ content.value.depth ≤ Json.levelLimit ∧
        ∀ x ∈ content.value.floats, (Json.number (.float x)).survives = true) ∧
      (Json.levelLimit < content.value.depth → reopened = .emptyScene) := by
  obtain ⟨d, content, active, made, reopened⟩ := open_of_savedLast rfl saved
  exact ⟨d, content, shown (Content.ofText content.toText), active, made, reopened,
    shown_toText made, shown_deep made⟩

/-- One edit in a new editor and a poll after its window. -/
private theorem savedLast_once {m : Model} {content : Content}
    (made : Content.ofModel m = .ok content) : SavedLast blank [.open sample] m 0 [.poll 20] := by
  have encoded : encode m = .ok (content, content.toText) := encode_eq_ok.mpr ⟨made, rfl⟩
  generalize content.toText = text at encoded
  have there : after blank [.open sample] = opened := rfl
  have active : opened.active = some sample := rfl
  have loaded : opened.content = some .emptyScene := rfl
  have entered : Step.edit? ⟨1, opened, .change m 0⟩ = some ⟨1, sample.id, text, 0, 10⟩ := by
    simp only [Step.edit?, active, loaded, encoded]
    rfl
  have taken : (opened.change m 0).value = (true, { opened with
      content := some content, waiting := (opened.waiting.schedule sample.id text 0).2 }) := by
    rw [value_change, encoded]
    rfl
  have split : [.open sample] ++ .change m 0 :: [.poll 20] =
      ([.open sample] ++ [.change m 0] ++ [.poll 20] : List (Event MemoryRecords)) := rfl
  constructor
  case accepted => rw [there, step, taken]
  case alone => simp [Event.isElsewhere]
  case last =>
    have waits : ledger blank ([.open sample] ++ [.change m 0]) =
        { pending := [⟨1, sample.id, text, 0, 10⟩] } := by
      rw [ledger_concat, there]
      simp only [List.length_singleton, Ledger.record, entered]
      rfl
    rw [split, ledger_concat, waits]
    rfl
  case saved =>
    rw [split, outcomes_concat, after_concat, there, step, taken, List.getLast?_append]
    rfl

theorem reopening_restores_text :
    SavedLast blank [.open sample] (.text "x") 0 [.poll 20] ∧
      ∃ reopened, ((ofLibrary (after blank
        ([.open sample] ++ .change (.text "x") 0 :: [.poll 20])).library 10).open sample).value.content =
          some reopened ∧ (reopened == ⟨.text "x"⟩) = true := by
  have saved : SavedLast blank [.open sample] (.text "x") 0 [.poll 20] := savedLast_once rfl
  have named : (after blank [.open sample]).active = some sample := by decide
  obtain ⟨d, content, reopened, active, made, shows, same, _⟩ :=
    reopening_restores_iff (⟨{}⟩ : Library MemoryRecords) 10 [.open sample] (.text "x") 0 [.poll 20] saved
  obtain rfl : sample = d := Option.some.inj (named.symm.trans active)
  obtain rfl : ⟨.text "x"⟩ = content := Except.ok.inj made
  exact ⟨saved, reopened, shows sample 10 rfl, same.mpr (by decide)⟩

/-- Lists around nothing. -/
def nested : Nat → Model
  | 0 => .null
  | n + 1 => .list [nested n]

private theorem toJson_nested (n : Nat) :
    ∃ value, (nested n).toJson = .ok value ∧ value.depth = n := by
  induction n with
  | zero => exact ⟨.null, rfl, rfl⟩
  | succ n ih =>
    obtain ⟨value, told, depth⟩ := ih
    refine ⟨.list [value], ?_, ?_⟩
    · simp [nested, Model.toJson, Model.itemsToJson, told, bind, Except.bind, Except.map]
    · simpa [Json.depth, Json.depthItems] using depth

/-- An edit that is nested too deep is taken and saved, and lost when the document is opened again. -/
theorem reopening_loses_nested :
    SavedLast blank [.open sample] (nested 128) 0 [.poll 20] ∧
      ∃ content, Content.ofModel (nested 128) = .ok content ∧
        ((ofLibrary (after blank
          ([.open sample] ++ .change (nested 128) 0 :: [.poll 20])).library 10).open sample).value.content
            = some .emptyScene ∧ (Content.emptyScene == content) = false := by
  obtain ⟨value, told, depth⟩ := toJson_nested 128
  have made : Content.ofModel (nested 128) = .ok ⟨value⟩ := by rw [Content.ofModel, told]
  have saved := savedLast_once made
  have deep : Json.levelLimit < value.depth := by
    rw [depth]
    decide
  obtain ⟨d, content, active, made', shows⟩ := open_of_savedLast rfl saved
  obtain rfl : ⟨value⟩ = content := Except.ok.inj (made.symm.trans made')
  have named : (after blank [.open sample]).active = some sample := by decide
  obtain rfl : sample = d := Option.some.inj (named.symm.trans active)
  refine ⟨saved, ⟨value⟩, made, ?_, ?_⟩
  · rw [shows sample 10 rfl, shown_deep made deep]
  · rw [Bool.eq_false_iff]
    intro same
    have empty : value = Content.emptyScene.value :=
      congrArg Content.value (Content.eq_emptyScene same)
    rw [empty] at depth
    cases depth

end Sketchbook.Editor
