import Sketchbook.Proofs.Json.RoundTrip

/-!
What JSON text stands for. A property that each value has if those that it holds have it is one of
whatever is read (`Passes.of_read`): the value is well formed and all its floats are finite
(`sound_read`), so that nothing is lost when it is taken over as data and told as JSON again, and it is
not nested too deep (`depth_of_read`), so that its text is read again if it holds no floats
(`read_again`).
-/
namespace Sketchbook.Json

/-- A value that a text can stand for. -/
structure Sound (j : Json) : Prop where
  formed : j.WellFormed
  finite : ∀ x ∈ j.floats, x.isFinite = true

/-! ### Lists and objects of sound values -/

theorem itemsWellFormed_iff {items : List Json} :
    ItemsWellFormed items ↔ ∀ item ∈ items, item.WellFormed := by
  induction items with
  | nil => simp [ItemsWellFormed]
  | cons item rest ih => simp [ItemsWellFormed, ih]

theorem membersWellFormed_iff {members : List (String × Json)} :
    MembersWellFormed members ↔ ∀ m ∈ members, m.2.WellFormed := by
  induction members with
  | nil => simp [MembersWellFormed]
  | cons m rest ih => simp [MembersWellFormed, ih]

theorem mem_floatsOfItems {items : List Json} {x : Float} :
    x ∈ floatsOfItems items ↔ ∃ item ∈ items, x ∈ item.floats := by
  induction items with
  | nil => simp [floatsOfItems]
  | cons item rest ih => simp [floatsOfItems, ih]

theorem mem_floatsOfMembers {members : List (String × Json)} {x : Float} :
    x ∈ floatsOfMembers members ↔ ∃ m ∈ members, x ∈ m.2.floats := by
  induction members with
  | nil => simp [floatsOfMembers]
  | cons m rest ih => simp [floatsOfMembers, ih]

theorem depthItems_le {items : List Json} {levels : Nat} :
    depthItems items ≤ levels ↔ ∀ item ∈ items, item.depth ≤ levels := by
  induction items with
  | nil => simp [depthItems]
  | cons item rest ih => rw [depthItems, Nat.max_le, ih, List.forall_mem_cons]

theorem depthMembers_le {members : List (String × Json)} {levels : Nat} :
    depthMembers members ≤ levels ↔ ∀ m ∈ members, m.2.depth ≤ levels := by
  induction members with
  | nil => simp [depthMembers]
  | cons m rest ih => rw [depthMembers, Nat.max_le, ih, List.forall_mem_cons]

/-- An object is made of some of the given members, and their names ascend. -/
theorem ofMembers_kept (members : List (String × Json)) : ∃ kept,
    ofMembers members = .object kept ∧ Entries.Ascending kept ∧ ∀ m ∈ kept, m ∈ members := by
  have grown : ∀ before : List (String × Json), Entries.Ascending before →
      Entries.Ascending (members.foldl (fun entries m => Entries.insert m.1 m.2 entries) before) ∧
        ∀ m ∈ members.foldl (fun entries m => Entries.insert m.1 m.2 entries) before,
          m ∈ before ∨ m ∈ members := by
    induction members with
    | nil => exact fun before ascending => ⟨ascending, fun m => Or.inl⟩
    | cons m rest ih =>
      intro before ascending
      obtain ⟨sorted, known⟩ := ih _ (ascending.insert m.1 m.2)
      refine ⟨sorted, fun other member => ?_⟩
      rcases known other member with earlier | later
      · rcases Entries.mem_insert earlier with rfl | earlier
        · exact Or.inr List.mem_cons_self
        · exact Or.inl earlier
      · exact Or.inr (List.mem_cons_of_mem _ later)
  obtain ⟨ascending, known⟩ := grown [] .nil
  exact ⟨_, rfl, ascending, fun m member => (known m member).resolve_left List.not_mem_nil⟩

/-- Members in any order make an object whose names ascend. -/
theorem wellFormed_ofMembers {members : List (String × Json)}
    (formed : ∀ m ∈ members, m.2.WellFormed) : (ofMembers members).WellFormed := by
  obtain ⟨kept, shape, ascending, known⟩ := ofMembers_kept members
  rw [shape]
  exact ⟨ascending, membersWellFormed_iff.mpr fun m member => formed m (known m member)⟩

theorem sound_list {items : List Json} (sound : ∀ item ∈ items, item.Sound) :
    (Json.list items).Sound where
  formed := itemsWellFormed_iff.mpr fun item member => (sound item member).formed
  finite x inside := by
    obtain ⟨item, member, inside⟩ := mem_floatsOfItems.mp inside
    exact (sound item member).finite x inside

theorem sound_ofMembers {members : List (String × Json)} (sound : ∀ m ∈ members, m.2.Sound) :
    (ofMembers members).Sound := by
  constructor
  case formed => exact wellFormed_ofMembers fun m member => (sound m member).formed
  case finite =>
    intro x inside
    obtain ⟨kept, shape, _, known⟩ := ofMembers_kept members
    rw [shape] at inside
    obtain ⟨m, member, inside⟩ := mem_floatsOfMembers.mp inside
    exact (sound m (known m member)).finite x inside

/-! ### Numbers -/

theorem sound_ofNumber {n : JsonNumber} (range : ∀ i, n = .integer i → IntegerRange i) :
    (ofNumber n).Sound := by
  cases n with
  | integer i => exact ⟨range i rfl, by simp [ofNumber, floats]⟩
  | float x =>
    by_cases finite : x.isFinite = true
    · rw [ofNumber, if_pos finite]
      exact ⟨trivial, by simp [floats, finite]⟩
    · rw [ofNumber, if_neg finite]
      exact ⟨trivial, by simp [floats]⟩

/-- What is gathered stays within the limit. -/
private theorem gatherDigits_le (significand : Nat) (cs : List Char)
    (small : significand ≤ significandLimit) :
    (gatherDigits significand cs).1 ≤ significandLimit := by
  induction cs generalizing significand with
  | nil => exact small
  | cons c rest ih =>
    unfold gatherDigits
    split
    · exact small
    · split
      · next fits => exact ih _ fits
      · exact small

private theorem integerRange_signedInteger {negative : Bool} {n : Nat} {i : Int}
    (small : n ≤ significandLimit) (signed : signedInteger negative n = .integer i) :
    IntegerRange i := by
  unfold significandLimit at small
  unfold signedInteger at signed
  split at signed
  · obtain rfl := JsonNumber.integer.inj signed
    constructor <;> omega
  · split at signed
    · obtain rfl := JsonNumber.integer.inj signed
      constructor <;> omega
    · cases signed

/-- Only floats are made of a number with an exponent. -/
private theorem float_of_finishFloat {negative : Bool} {significand : Nat} {exponent : Int}
    {cs rest : List Char} {n : JsonNumber}
    (read : finishFloat negative significand exponent cs = .ok (n, rest)) : ∃ x, n = .float x := by
  unfold finishFloat at read
  split at read
  · cases read
    exact ⟨_, rfl⟩
  · cases read

private theorem float_of_readExponent {negative : Bool} {significand : Nat} {exponent : Int}
    {cs rest : List Char} {n : JsonNumber}
    (read : readExponent negative significand exponent cs = .ok (n, rest)) : ∃ x, n = .float x := by
  unfold readExponent at read
  simp only at read
  split at read
  · cases read
  · split at read
    · cases read
    · obtain ⟨⟨shift, left⟩, _, finished⟩ := bind_eq_ok.mp read
      cases shift with
      | none =>
        cases finished
        exact ⟨_, rfl⟩
      | some shift => exact float_of_finishFloat finished

private theorem float_of_readScale {negative : Bool} {significand : Nat} {exponent : Int}
    {cs rest : List Char} {n : JsonNumber}
    (read : readScale negative significand exponent cs = .ok (n, rest)) : ∃ x, n = .float x := by
  unfold readScale at read
  split at read
  · exact float_of_readExponent read
  · exact float_of_readExponent read
  · exact float_of_finishFloat read

private theorem float_of_readFraction {negative : Bool} {significand : Nat} {exponent : Int}
    {cs rest : List Char} {n : JsonNumber}
    (read : readFraction negative significand exponent cs = .ok (n, rest)) : ∃ x, n = .float x := by
  unfold readFraction at read
  split at read
  · cases read
  · split at read
    · split at read
      exact float_of_readScale read
    · cases read

private theorem integerRange_of_readIntegerEnd {negative : Bool} {significand dropped : Nat}
    {cs rest : List Char} {i : Int} (small : significand ≤ significandLimit)
    (read : readIntegerEnd negative significand dropped cs = .ok (.integer i, rest)) :
    IntegerRange i := by
  have noFloat : ¬ ∃ x, JsonNumber.integer i = .float x := fun ⟨_, same⟩ => by cases same
  unfold readIntegerEnd at read
  split at read
  · exact absurd (float_of_readFraction read) noFloat
  · exact absurd (float_of_readExponent read) noFloat
  · exact absurd (float_of_readExponent read) noFloat
  · split at read
    · apply integerRange_signedInteger small
      exact (Prod.mk.inj (Except.ok.inj read)).1
    · exact absurd (float_of_finishFloat read) noFloat

/-- Every integer that is read is in range. -/
theorem integerRange_of_readNumber {negative : Bool} {cs rest : List Char} {i : Int}
    (read : readNumber negative cs = .ok (.integer i, rest)) : IntegerRange i := by
  unfold readNumber at read
  split at read
  · cases read
  · split at read
    · split at read
      · cases read
      · exact integerRange_of_readIntegerEnd (Nat.zero_le _) read
    · exact integerRange_of_readIntegerEnd (Nat.zero_le _) read
  · next c more _ =>
    split at read
    · have small := gatherDigits_le 0 (c :: more) (Nat.zero_le _)
      split at read
      next total count left gathered =>
        rw [gathered] at small
        exact integerRange_of_readIntegerEnd small read
    · cases read

/-! ### Values -/

/-- A property of values that may hold other values only so many levels deep, which each value has as it
is read if those that it holds have it. -/
private structure Passes (P : Nat → Json → Prop) : Prop where
  null : ∀ levels, P levels .null
  boolean : ∀ levels b, P levels (.boolean b)
  text : ∀ levels s, P levels (.text s)
  number : ∀ levels n, (∀ i, n = .integer i → IntegerRange i) → P levels (ofNumber n)
  list : ∀ levels items, (∀ item ∈ items, P levels item) → P (levels + 1) (.list items)
  object : ∀ levels members, (∀ m ∈ members, P levels m.2) → P (levels + 1) (ofMembers members)

/-- What is read with so many steps has a property: a value, the items of a list, the members of an
object. -/
private structure PassedWithin (P : Nat → Json → Prop) (fuel : Nat) : Prop where
  value : ∀ levels cs j rest, readValue fuel levels cs = .ok (j, rest) → P levels j
  items : ∀ levels first cs items rest, readItems fuel levels first cs = .ok (items, rest) →
    ∀ item ∈ items, P levels item
  members : ∀ levels first cs members rest,
    readMembers fuel levels first cs = .ok (members, rest) → ∀ m ∈ members, P levels m.2

section Passes

variable {P : Nat → Json → Prop} {fuel levels : Nat} {first negative : Bool} {cs rest : List Char}
  {j : Json}

private theorem Passes.readNumber (passes : Passes P)
    (read : ((readNumber negative cs).map fun found => (ofNumber found.1, found.2)) = .ok (j, rest)) :
    P levels j := by
  obtain ⟨⟨n, left⟩, found, same⟩ := map_eq_ok.mp read
  cases same
  apply passes.number
  rintro i rfl
  exact integerRange_of_readNumber found

private theorem PassedWithin.readValue (within : PassedWithin P fuel) (passes : Passes P)
    (read : readValue (fuel + 1) levels cs = .ok (j, rest)) : P levels j := by
  unfold Json.readValue at read
  split at read
  · cases read
  · obtain ⟨_, _, same⟩ := map_eq_ok.mp read
    cases same
    exact passes.null levels
  iterate 2
    · obtain ⟨_, _, same⟩ := map_eq_ok.mp read
      cases same
      exact passes.boolean levels _
  · obtain ⟨_, _, same⟩ := map_eq_ok.mp read
    cases same
    exact passes.text levels _
  · split at read
    · cases read
    · obtain ⟨⟨items, left⟩, found, same⟩ := map_eq_ok.mp read
      cases same
      exact passes.list _ _ (within.items _ _ _ _ _ found)
  · split at read
    · cases read
    · obtain ⟨⟨members, left⟩, found, same⟩ := map_eq_ok.mp read
      cases same
      exact passes.object _ _ (within.members _ _ _ _ _ found)
  · exact passes.readNumber read
  · split at read
    · exact passes.readNumber read
    · cases read

private theorem PassedWithin.readItems (within : PassedWithin P fuel) {items : List Json}
    (read : readItems (fuel + 1) levels first cs = .ok (items, rest)) :
    ∀ item ∈ items, P levels item := by
  unfold Json.readItems at read
  obtain ⟨next, _, read⟩ := bind_eq_ok.mp read
  cases next with
  | close left =>
    cases read
    simp
  | entry left =>
    obtain ⟨⟨item, after⟩, one, read⟩ := bind_eq_ok.mp read
    obtain ⟨⟨others, last⟩, more, same⟩ := bind_eq_ok.mp read
    cases same
    intro other member
    rcases List.mem_cons.mp member with rfl | member
    · exact within.value _ _ _ _ one
    · exact within.items _ _ _ _ _ more other member

private theorem PassedWithin.readMembers (within : PassedWithin P fuel)
    {members : List (String × Json)}
    (read : readMembers (fuel + 1) levels first cs = .ok (members, rest)) :
    ∀ m ∈ members, P levels m.2 := by
  unfold Json.readMembers at read
  obtain ⟨next, _, read⟩ := bind_eq_ok.mp read
  cases next with
  | close left =>
    cases read
    simp
  | entry named =>
    obtain ⟨colon, _, read⟩ := bind_eq_ok.mp read
    obtain ⟨⟨value, after⟩, one, read⟩ := bind_eq_ok.mp read
    obtain ⟨⟨others, last⟩, more, same⟩ := bind_eq_ok.mp read
    cases same
    intro other member
    rcases List.mem_cons.mp member with rfl | member
    · exact within.value _ _ _ _ one
    · exact within.members _ _ _ _ _ more other member

private theorem Passes.within (passes : Passes P) (fuel : Nat) : PassedWithin P fuel := by
  induction fuel with
  | zero =>
    constructor
    · intro levels cs j rest read
      cases read
    · intro levels first cs items rest read
      cases read
    · intro levels first cs members rest read
      cases read
  | succ fuel ih =>
    exact ⟨fun _ _ _ _ => ih.readValue passes, fun _ _ _ _ _ => ih.readItems,
      fun _ _ _ _ _ => ih.readMembers⟩

/-- Whatever text is read, its value has the property. -/
private theorem Passes.of_read (passes : Passes P) {text : String} (found : read text = .ok j) :
    P levelLimit j := by
  obtain ⟨rest, result, _⟩ := readAll_eq_ok.mp found
  exact (passes.within _).value _ _ _ _ result

end Passes

/-- Whatever text is read, its value is well formed and its floats are finite. -/
theorem sound_read {text : String} {j : Json} (found : read text = .ok j) : j.Sound := by
  have passes : Passes fun _ j => j.Sound := by
    constructor
    case number => exact fun _ _ range => sound_ofNumber range
    case list => exact fun _ _ sound => sound_list sound
    case object => exact fun _ _ sound => sound_ofMembers sound
    all_goals
      intros
      exact ⟨trivial, by simp [floats]⟩
  exact passes.of_read found

/-- Whatever text is read, its value is not nested too deep. -/
theorem depth_of_read {text : String} {j : Json} (found : read text = .ok j) :
    j.depth ≤ levelLimit := by
  have passes : Passes fun levels j => j.depth ≤ levels := by
    constructor
    case number =>
      intro levels n _
      cases n with
      | integer i => exact Nat.zero_le _
      | float x =>
        rw [ofNumber]
        by_cases finite : x.isFinite = true
        · rw [if_pos finite]
          exact Nat.zero_le _
        · rw [if_neg finite]
          exact Nat.zero_le _
    case list =>
      intro levels items shallow
      exact Nat.succ_le_succ (depthItems_le.mpr shallow)
    case object =>
      intro levels members shallow
      obtain ⟨kept, shape, _, known⟩ := ofMembers_kept members
      rw [shape]
      exact Nat.succ_le_succ (depthMembers_le.mpr fun m member => shallow m (known m member))
    all_goals
      intros
      exact Nat.zero_le _
  exact passes.of_read found

/-- The text of what was read from a text without floats is read as the same value, also as a line. -/
theorem read_again {text : String} {j : Json} (found : read text = .ok j) (integers : j.floats = []) :
    read j.compact = .ok j ∧ read (j.compact ++ "\n") = .ok j :=
  read_of_integers (sound_read found).formed (depth_of_read found) integers

end Sketchbook.Json
