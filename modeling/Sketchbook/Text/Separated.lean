/-!
Lists of texts written in one line with a separator between the items. Splitting undoes
joining for every non-empty list of items that are free of the separator (`splitChars_joinChars`), and
joining undoes splitting (`joinChars_splitChars`).
-/
namespace Sketchbook.Text

/-- The pieces between the separators; there is always one more piece than separators. -/
def splitChars (separator : Char) : List Char → List (List Char)
  | [] => [[]]
  | c :: rest =>
    if c = separator then [] :: splitChars separator rest
    else
      match splitChars separator rest with
      | [] => [[c]]
      | piece :: pieces => (c :: piece) :: pieces

/-- The pieces of a text between the separators, empty ones included. -/
def split (separator : Char) (s : String) : List String :=
  (splitChars separator s.toList).map String.ofList

/-- The items in order with one separator between neighbours. -/
def joinChars (separator : Char) : List (List Char) → List Char
  | [] => []
  | [piece] => piece
  | piece :: pieces => piece ++ separator :: joinChars separator pieces

/-- The texts in order with one separator between neighbours. -/
def join (separator : Char) (items : List String) : String :=
  String.ofList (joinChars separator (items.map String.toList))

theorem splitChars_ne_nil (separator : Char) (cs : List Char) :
    splitChars separator cs ≠ [] := by
  cases cs with
  | nil => simp [splitChars]
  | cons c rest =>
    unfold splitChars
    split
    · simp
    · split <;> simp

/-- No piece has the separator in it. -/
theorem not_mem_of_mem_splitChars {separator : Char} {cs piece : List Char}
    (member : piece ∈ splitChars separator cs) : separator ∉ piece := by
  induction cs generalizing piece with
  | nil =>
    rw [splitChars, List.mem_singleton] at member
    simp [member]
  | cons c rest ih =>
    unfold splitChars at member
    split at member
    · rcases List.mem_cons.mp member with rfl | later
      · exact List.not_mem_nil
      · exact ih later
    · next other =>
      split at member
      · rw [List.mem_singleton.mp member]
        simpa using Ne.symm other
      · next first pieces shape =>
        rcases List.mem_cons.mp member with rfl | later
        · have free : separator ∉ first := ih (by simp [shape])
          simpa [free] using Ne.symm other
        · exact ih (by simp [shape, later])

/-- A piece free of the separator is taken whole by the split. -/
theorem splitChars_append {separator : Char} (piece rest : List Char)
    (free : separator ∉ piece) :
    splitChars separator (piece ++ separator :: rest) = piece :: splitChars separator rest := by
  induction piece with
  | nil => simp [splitChars]
  | cons c piece ih =>
    have hc : c ≠ separator := fun h => free (by simp [h])
    have hp : separator ∉ piece := fun h => free (List.mem_cons_of_mem c h)
    simp [splitChars, hc, ih hp]

theorem splitChars_of_free {separator : Char} (piece : List Char) (free : separator ∉ piece) :
    splitChars separator piece = [piece] := by
  induction piece with
  | nil => rfl
  | cons c piece ih =>
    have hc : c ≠ separator := fun h => free (by simp [h])
    have hp : separator ∉ piece := fun h => free (List.mem_cons_of_mem c h)
    simp [splitChars, hc, ih hp]

/-- Splitting undoes joining. -/
theorem splitChars_joinChars {separator : Char} (pieces : List (List Char)) (nonempty : pieces ≠ [])
    (free : ∀ piece ∈ pieces, separator ∉ piece) :
    splitChars separator (joinChars separator pieces) = pieces := by
  induction pieces with
  | nil => exact absurd rfl nonempty
  | cons piece pieces ih =>
    have hp : separator ∉ piece := free piece (by simp)
    cases pieces with
    | nil => simpa [joinChars] using splitChars_of_free piece hp
    | cons next pieces =>
      rw [joinChars, splitChars_append _ _ hp,
        ih (by simp) fun p h => free p (List.mem_cons_of_mem _ h)]
      simp

/-- Joining undoes splitting. -/
theorem joinChars_splitChars (separator : Char) (cs : List Char) :
    joinChars separator (splitChars separator cs) = cs := by
  induction cs with
  | nil => rfl
  | cons c rest ih =>
    obtain ⟨first, pieces, shape⟩ := List.exists_cons_of_ne_nil (splitChars_ne_nil separator rest)
    rw [shape] at ih
    by_cases same : c = separator
    · simp only [splitChars, same, ↓reduceIte, shape, joinChars, List.nil_append, ih]
    · simp only [splitChars, same, ↓reduceIte, shape]
      cases pieces with
      | nil => exact congrArg (c :: ·) ih
      | cons next pieces => exact congrArg (c :: ·) ih

end Sketchbook.Text
