/-!
Computations that may fail, seen by what they give when they succeed, and two such computations seen
side by side (`Agree`).
-/
namespace Sketchbook

variable {ε α β : Type}

theorem bind_eq_ok {x : Except ε α} {f : α → Except ε β} {b : β} :
    x >>= f = .ok b ↔ ∃ a, x = .ok a ∧ f a = .ok b := by
  cases x <;> simp [bind, Except.bind]

theorem map_eq_ok {x : Except ε α} {f : α → β} {b : β} :
    x.map f = .ok b ↔ ∃ a, x = .ok a ∧ f a = b := by
  cases x <;> simp [Except.map]

theorem mapError_eq_ok {δ : Type} {x : Except ε α} {f : ε → δ} {a : α} :
    x.mapError f = .ok a ↔ x = .ok a := by
  cases x with
  | error e =>
    constructor
    · intro made
      cases made
    · intro made
      cases made
  | ok b =>
    constructor
    · intro made
      exact congrArg Except.ok (Except.ok.inj made)
    · intro made
      exact congrArg Except.ok (Except.ok.inj made)

theorem toOption_eq_some {x : Except ε α} {a : α} : x.toOption = some a ↔ x = .ok a := by
  cases x <;> simp [Except.toOption]

theorem toOption_bind (x : Except ε α) (f : α → Except ε β) :
    (x >>= f).toOption = x.toOption.bind fun a => (f a).toOption := by
  cases x <;> rfl

theorem toOption_map (x : Except ε α) (f : α → β) : (x.map f).toOption = x.toOption.map f := by
  cases x <;> rfl

theorem toOption_mapError (x : Except ε α) (f : ε → β) : (x.mapError f).toOption = x.toOption := by
  cases x <;> rfl

/-- Two results that fail with the same error, or whose values are related. -/
inductive Agree (R : α → β → Prop) : Except ε α → Except ε β → Prop where
  | failed (e : ε) : Agree R (.error e) (.error e)
  | made {a : α} {b : β} (related : R a b) : Agree R (.ok a) (.ok b)

theorem Agree.outcomes {R : α → β → Prop} {x : Except ε α} {y : Except ε β} (agree : Agree R x y) :
    (∃ e, x = .error e ∧ y = .error e) ∨ ∃ a b, x = .ok a ∧ y = .ok b ∧ R a b := by
  cases agree with
  | failed e => exact Or.inl ⟨e, rfl, rfl⟩
  | made related => exact Or.inr ⟨_, _, rfl, rfl, related⟩

end Sketchbook
