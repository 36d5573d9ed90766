import Sketchbook.Proofs.Autosave.Fates
import Sketchbook.Proofs.Autosave.Tickets

/-!
Coherence of an editor. Its document, its content, the edits that wait and the number of the activation
are kept apart, and the phase is told by two of them only. In every editor that calls can lead to they
fit together (`reachable_is_coherent`), so that the phase tells the truth.
-/
namespace Sketchbook.Editor

variable {σ : Type}

/-- The fields of an editor fit together: there is content only for an active document, and edits wait
only of that document and only when its content is there. -/
structure Coherent (e : Editor σ) : Prop where
  active : e.content.isSome = true → e.active.isSome = true
  own : ∀ entry ∈ e.waiting.entries, e.active.map Descriptor.id = some entry.1
  loaded : e.waiting.isEmpty = false → e.content.isSome = true

/-- The phase of an editor tells whether there is content, whether edits wait and whether the host has
something to wait for. -/
structure PhaseTells (e : Editor σ) : Prop where
  unloaded : e.phase = .unloaded ↔ e.content = none
  quiet : e.phase = .unloaded → e.waiting.isEmpty = true ∧ e.waiting.nextDeadline = none
  dirty : e.phase = .dirty ↔ e.waiting.isEmpty = false
  deadline : e.waiting.isEmpty = false ↔ e.waiting.nextDeadline.isSome = true

/-- When the fields fit together, the phase tells the truth. -/
theorem Coherent.phaseTells {e : Editor σ} (coherent : e.Coherent) : e.PhaseTells := by
  have dirty : e.phase = .dirty ↔ e.waiting.isEmpty = false := by
    unfold phase
    cases content : e.content with
    | none =>
      have nothing : e.waiting.isEmpty = true := by
        by_contra some
        have there := coherent.loaded (by simpa using some)
        simp [content] at there
      simp [nothing]
    | some there => cases e.waiting.isEmpty <;> simp
  have unloaded : e.phase = .unloaded ↔ e.content = none := by
    unfold phase
    cases e.content with
    | none => simp
    | some there => cases e.waiting.isEmpty <;> simp
  have quiet : e.phase = .unloaded → e.waiting.isEmpty = true := by
    intro phase
    by_contra some
    rw [Bool.not_eq_true, ← dirty, phase] at some
    cases some
  refine ⟨unloaded, fun phase => ⟨quiet phase, ?_⟩, dirty, e.waiting.isSome_nextDeadline.symm⟩
  rw [← Option.not_isSome_iff_eq_none, QuietQueue.isSome_nextDeadline, quiet phase]
  simp

variable [Records σ]

/-- After any calls with its own tickets an editor is coherent. -/
theorem coherent_after {e : Editor σ} {events : List (Event σ)} (idle : e.waiting.isEmpty = true)
    (fresh : e.content = none) (own : OwnTickets e events) : (after e events).Coherent := by
  have agrees := ledger_agrees idle events
  have waits := agrees.pending_is_waiting
  constructor
  case active => exact active_of_content (by simp [fresh]) own
  case own =>
    intro entry member
    rw [waits] at member
    obtain ⟨edit, pending, rfl⟩ := List.mem_map.mp member
    cases active : (after e events).active with
    | none =>
      rw [(agrees.idle active).2] at pending
      cases pending
    | some d => simp [agrees.own d active edit pending]
  case loaded =>
    intro waiting
    refine agrees.loaded fun nothing => ?_
    rw [QuietQueue.isEmpty, waits, nothing] at waiting
    cases waiting

/-- In every state that calls with the editor's own tickets lead to, whatever their order and times, the
fields of the editor fit together and the phase tells the truth. -/
theorem reachable_is_coherent (library : Library σ) (window : Nat) (events : List (Event σ))
    (own : OwnTickets (ofLibrary library window) events) :
    (after (ofLibrary library window) events).Coherent ∧
      (after (ofLibrary library window) events).PhaseTells := by
  have coherent := coherent_after (e := ofLibrary library window) rfl rfl own
  exact ⟨coherent, coherent.phaseTells⟩

/-- A document that is loaded by a ticket and edited at times that go back, after another one was left
with an edit that waited. -/
def dirtyCalls : List (Event MemoryRecords) :=
  [.open otherSample, .change (.integer 1) 9, .activate sample, .beginHydration,
    .completeHydration ⟨sample.id, 2⟩ (.ok .emptyScene), .change (.integer 2) 30,
    .change (.integer 3) 7]

theorem dirtyCalls_coherent :
    OwnTickets blank dirtyCalls ∧
      ((after blank dirtyCalls).Coherent ∧ (after blank dirtyCalls).PhaseTells) ∧
      (after blank dirtyCalls).phase = .dirty ∧
      (after blank dirtyCalls).waiting.nextDeadline = some 17 :=
  ⟨by decide +kernel, reachable_is_coherent _ _ _ (by decide +kernel), by decide +kernel,
    by decide +kernel⟩

end Sketchbook.Editor
