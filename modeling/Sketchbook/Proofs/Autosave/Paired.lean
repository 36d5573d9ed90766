import Sketchbook.Autosave.Session
import Sketchbook.Proofs.Autosave.Run
import Sketchbook.Proofs.Autosave.SingleKey
import Sketchbook.Proofs.Failing

/-!
Two editing sessions side by side. Of a store a session sees only what it answers for the document, so
that on stores which answer alike for it (`AnswersAlike`) it shows the same and ends the same
(`run_paired`), whatever else the stores hold.
-/
namespace Sketchbook

variable {σ : Type} [Records σ]

/-- Stores that are related answer the same for a document, and are still related when a text has been
put for it. -/
structure AnswersAlike (R : σ → σ → Prop) (id : DocumentId) : Prop where
  get : ∀ s t, R s t → Records.get t id.text = Records.get s id.text
  put : ∀ s t, R s t → ∀ text, Agree R (Records.put s id.text text) (Records.put t id.text text)

namespace Editor

variable {R : σ → σ → Prop} {id : DocumentId}

/-- Two editors of a document that differ only in their stores, which are related. All that waits is for
the document. -/
structure Paired (R : σ → σ → Prop) (id : DocumentId) (e f : Editor σ) : Prop where
  same : f = { e with library := f.library }
  related : R e.library.records f.library.records
  active : ∀ d, e.active = some d → d.id = id
  own : ∃ window waits, e.waiting = .ofKey window id waits

private theorem writeAll_paired (answers : AnswersAlike R id) {due : List (DocumentId × String)}
    (own : ∀ entry ∈ due, entry.1 = id) {l m : Library σ} (related : R l.records m.records) :
    (writeAll m due).value.1 = (writeAll l due).value.1 ∧
      R (writeAll l due).value.2.records (writeAll m due).value.2.records := by
  induction due generalizing l m with
  | nil => exact ⟨rfl, related⟩
  | cons entry rest ih =>
    obtain ⟨document, text⟩ := entry
    obtain rfl : document = id := own _ List.mem_cons_self
    have others : ∀ entry ∈ rest, entry.1 = document := fun entry member =>
      own entry (List.mem_cons_of_mem _ member)
    have outcome := answers.put l.records m.records related text
    obtain ⟨e, own, other⟩ | ⟨records, records', own, other, related⟩ := outcome.outcomes
    · obtain ⟨outcomes, final⟩ := ih others related
      simp only [writeAll, Library.putText, own, other, Noted.value_bind, Noted.value_pure]
      exact ⟨congrArg _ outcomes, final⟩
    · obtain ⟨outcomes, final⟩ := ih others (l := ⟨records⟩) (m := ⟨records'⟩) related
      simp only [writeAll, Library.putText, own, other, Noted.value_bind, Noted.value_pure]
      exact ⟨congrArg _ outcomes, final⟩

variable {e f : Editor σ}

theorem Paired.poll (answers : AnswersAlike R id) (paired : Paired R id e f) (now : Nat) :
    (f.poll now).value.1 = (e.poll now).value.1 ∧
      Paired R id (e.poll now).value.2 (f.poll now).value.2 := by
  obtain ⟨same, related, active, window, waits, shape⟩ := paired
  have taken := QuietQueue.takeDue_ofKey window id waits now
  rw [← shape] at taken
  have due : ∀ entry ∈ (e.waiting.takeDue now).1, entry.1 = id := by
    intro entry member
    rw [taken] at member
    obtain ⟨wait, _, rfl⟩ := List.mem_map.mp member
    rfl
  obtain ⟨outcomes, final⟩ := writeAll_paired answers due related
  rw [same]
  exact ⟨outcomes, rfl, final, active, window, _, congrArg Prod.snd taken⟩

omit [Records σ] in
theorem Paired.change (paired : Paired R id e f) (m : Model) (now : Nat) :
    (f.change m now).value.1 = (e.change m now).value.1 ∧
      Paired R id (e.change m now).value.2 (f.change m now).value.2 := by
  obtain ⟨same, related, active, window, waits, shape⟩ := paired
  rw [same]
  simp only [value_change]
  split
  · next d _ content text there _ _ =>
    obtain rfl := active d there
    have scheduled := QuietQueue.schedule_ofKey window d.id waits text now
    rw [← shape] at scheduled
    refine ⟨rfl, rfl, related, active, window, ?_⟩
    simp only [scheduled]
    split
    · exact ⟨_, rfl⟩
    · split
      · exact ⟨_, rfl⟩
      · exact ⟨_, rfl⟩
  · exact ⟨rfl, rfl, related, active, window, waits, shape⟩

end Editor

namespace Session

variable {R : σ → σ → Prop} {id : DocumentId} {s t : Session σ}

/-- Two sessions that have counted the same, with editors that differ only in their stores. -/
structure Paired (R : σ → σ → Prop) (id : DocumentId) (s t : Session σ) : Prop where
  summary : t.summary = s.summary
  editor : Editor.Paired R id s.editor t.editor

private theorem Paired.poll (answers : AnswersAlike R id) (paired : Paired R id s t) (now : Nat) :
    Paired R id (s.poll now).value (t.poll now).value := by
  obtain ⟨outcomes, editor⟩ := paired.editor.poll answers now
  refine ⟨?_, editor⟩
  simp only [Session.poll, Noted.value_bind, Noted.value_pure, outcomes, paired.summary]

private theorem Paired.takeLine (answers : AnswersAlike R id) (paired : Paired R id s t) (text : String)
    (now : Nat) : Paired R id (s.takeLine text now).value (t.takeLine text now).value := by
  have polled := paired.poll answers now
  unfold Session.takeLine
  simp only [Noted.value_bind]
  split
  · exact polled
  · next value _ =>
    obtain ⟨taken, editor⟩ := polled.editor.change (.ofJson value) now
    refine ⟨?_, editor⟩
    simp only [Noted.value_bind, Noted.value_pure, taken, polled.summary]

private theorem Paired.takeLines (answers : AnswersAlike R id) (paired : Paired R id s t)
    (lines : List TimedLine) :
    (t.takeLines lines).value.1 = (s.takeLines lines).value.1 ∧
      Paired R id (s.takeLines lines).value.2 (t.takeLines lines).value.2 := by
  induction lines generalizing s t with
  | nil => exact ⟨rfl, paired⟩
  | cons line rest ih =>
    simp only [Session.takeLines]
    split
    · exact ⟨rfl, paired⟩
    · next text _ => exact ih (paired.takeLine answers text line.time)

private theorem Paired.drain (answers : AnswersAlike R id) (paired : Paired R id s t) (late : Nat → Nat)
    (now polls : Nat) :
    Paired R id (s.drain late now polls).value (t.drain late now polls).value := by
  induction polls generalizing s t now with
  | zero => exact paired
  | succ polls ih =>
    have waiting : t.editor.waiting = s.editor.waiting := by rw [paired.editor.same]
    simp only [Session.drain, waiting]
    split
    · exact paired
    · exact ih (paired.poll answers _) _

/-- On stores that answer alike for its document a session shows the same and ends the same. -/
theorem run_paired {d : Descriptor} (answers : AnswersAlike R d.id) (e : Editor σ) {l : Library σ}
    (related : R e.library.records l.records) (input : List TimedLine) (ended : Nat)
    (late : Nat → Nat) :
    (run { e with library := l } d input ended late).value.printed =
        (run e d input ended late).value.printed ∧
      (run { e with library := l } d input ended late).value.result =
        (run e d input ended late).value.result ∧
      R (run e d input ended late).value.editor.library.records
        (run { e with library := l } d input ended late).value.editor.library.records := by
  have shows : l.get d.id = e.library.get d.id := by
    simp only [Library.get, answers.get _ _ related]
  have opened : Paired R d.id (start e d).value (start { e with library := l } d).value := by
    simp only [start, Noted.value_bind, Noted.value_pure, Editor.value_open, shows]
    refine ⟨rfl, rfl, related, fun _ active => ?_, e.waiting.window, [], rfl⟩
    rw [← Option.some.inj active]
  have printed : (start { e with library := l } d).value.content = (start e d).value.content := by
    rw [content, content, opened.editor.same]
  obtain ⟨result, taken⟩ := opened.takeLines answers input
  simp only [run, Noted.value_bind, printed]
  generalize ((start e d).value.takeLines input).value = own,
    ((start { e with library := l } d).value.takeLines input).value = other at result taken ⊢
  obtain ⟨_, s⟩ := own
  obtain ⟨answer, t⟩ := other
  obtain rfl := result
  cases answer with
  | error error => exact ⟨rfl, rfl, taken.editor.related⟩
  | ok _ =>
    have size : t.editor.waiting.size = s.editor.waiting.size := by rw [taken.editor.same]
    have finished := taken.drain answers late ended s.editor.waiting.size
    simp only [finish, Noted.value_bind, Noted.value_pure, size]
    exact ⟨trivial, congrArg Except.ok finished.summary, finished.editor.related⟩

end Session

end Sketchbook
