import Mathlib.Logic.Basic
import Sketchbook.Proofs.Json.Number
import Sketchbook.Proofs.Json.Text

/-!
JSON values and their texts. A value is read back from its own text unless it is nested too deep, as
far as its floats are: `survives_iff` says exactly which values are the same after they were written
and read.
-/
namespace Sketchbook.Json

mutual

/-- Integers are in range, and the names of an object ascend. -/
def WellFormed : Json → Prop
  | .number (.integer n) => IntegerRange n
  | .list items => ItemsWellFormed items
  | .object members => Entries.Ascending members ∧ MembersWellFormed members
  | _ => True

def ItemsWellFormed : List Json → Prop
  | [] => True
  | item :: rest => item.WellFormed ∧ ItemsWellFormed rest

def MembersWellFormed : List (String × Json) → Prop
  | [] => True
  | (_, value) :: rest => value.WellFormed ∧ MembersWellFormed rest

end

mutual

/-- The floats in a value. -/
def floats : Json → List Float
  | .number (.float x) => [x]
  | .list items => floatsOfItems items
  | .object members => floatsOfMembers members
  | _ => []

/-- The floats in items. -/
def floatsOfItems : List Json → List Float
  | [] => []
  | item :: rest => item.floats ++ floatsOfItems rest

/-- The floats in members. -/
def floatsOfMembers : List (String × Json) → List Float
  | [] => []
  | (_, value) :: rest => value.floats ++ floatsOfMembers rest

end

/-- Whether a value is the same after it was written and read. -/
def survives (j : Json) : Bool :=
  match read j.compact with
  | .ok same => same == j
  | .error _ => false

mutual

/-- What a value is read back as where so many lists and objects may still be opened, if each of its
numbers is read back as it is alone. -/
def reread (levels : Nat) : Json → Option Json
  | .number n => (read (compact (.number n))).toOption
  | .list items =>
    match levels with
    | 0 => none
    | levels + 1 => (rereadItems levels items).map .list
  | .object members =>
    match levels with
    | 0 => none
    | levels + 1 => (rereadMembers levels members).map .object
  | j => some j

def rereadItems (levels : Nat) : List Json → Option (List Json)
  | [] => some []
  | item :: rest =>
    (item.reread levels).bind fun item => (rereadItems levels rest).map (item :: ·)

def rereadMembers (levels : Nat) : List (String × Json) → Option (List (String × Json))
  | [] => some []
  | (name, value) :: rest =>
    (value.reread levels).bind fun value => (rereadMembers levels rest).map ((name, value) :: ·)

end

/-! ### Numbers among values -/

/-- A digit is no blank and closes nothing. -/
private theorem digit_visible {c : Char} (digit : isDigit c = true) :
    (c == ' ' || c == '\n' || c == '\t' || c == '\r') = false ∧ c ≠ ']' := by
  simp only [Bool.or_eq_false_iff, beq_eq_false_iff_ne]
  refine ⟨⟨⟨⟨?_, ?_⟩, ?_⟩, ?_⟩, ?_⟩ <;> rintro rfl <;> exact absurd digit (by decide)

theorem readValue_digit (fuel levels : Nat) {c : Char} (digit : isDigit c = true)
    (rest : List Char) :
    readValue (fuel + 1) levels (c :: rest) =
      (readNumber false (c :: rest)).map fun (n, rest) => (.ofNumber n, rest) := by
  rw [readValue, skipBlanks_cons (digit_visible digit).1]
  split
  · next ended => cases ended
  iterate 7
    · next same =>
      obtain ⟨rfl, _⟩ := List.cons.inj same
      exact absurd digit (by decide)
  · next same =>
    obtain ⟨rfl, rfl⟩ := List.cons.inj same
    rw [if_pos digit]

theorem readValue_minus (fuel levels : Nat) (rest : List Char) :
    readValue (fuel + 1) levels ('-' :: rest) =
      (readNumber true rest).map fun (n, rest) => (.ofNumber n, rest) := by
  rw [readValue, skipBlanks_cons (by decide)]
  rfl

/-- A numeral of either sign is a number among the values. -/
private theorem readValue_signed (fuel levels : Nat) (negative : Bool) {cs : List Char}
    (numeral : IsNumeral cs) (rest : List Char) :
    readValue (fuel + 1) levels ((if negative then '-' :: cs else cs) ++ rest) =
      (readNumber negative (cs ++ rest)).map fun (n, rest) => (.ofNumber n, rest) := by
  cases negative with
  | true => exact readValue_minus fuel levels (cs ++ rest)
  | false =>
    obtain ⟨digits, atLeastOne, scale⟩ := numeral
    obtain ⟨first, others, rfl⟩ := List.exists_cons_of_ne_nil atLeastOne
    exact readValue_digit fuel levels (digits first List.mem_cons_self) _

/-- Whatever ends after a number, it is read as it is alone or it cannot be read at all. -/
private theorem steady_number (n : JsonNumber) :
    ∃ found : Option JsonNumber, ∀ fuel levels rest, Ends rest →
      (readValue (fuel + 1) levels (numberChars n ++ rest)).toOption =
        found.map fun n => (.ofNumber n, rest) := by
  obtain ⟨negative, cs, shape, numeral | rfl | ⟨rfl, rfl⟩⟩ := numberChars_cases n
  · obtain ⟨found, steady⟩ := steady_numeral negative numeral
    refine ⟨found, fun fuel levels rest ends => ?_⟩
    rw [shape, readValue_signed fuel levels negative numeral, toOption_map, steady rest ends]
    cases found <;> rfl
  · refine ⟨none, fun fuel levels rest _ => ?_⟩
    cases negative <;> rw [shape] <;> rfl
  · refine ⟨none, fun fuel levels rest _ => ?_⟩
    rw [shape]
    rfl

/-- Only blanks may be left in the end. -/
private theorem toOption_readEnd (rest : List Char) :
    (readEnd rest).toOption = if skipBlanks rest = [] then some () else none := by
  unfold readEnd
  cases skipBlanks rest <;> rfl

/-- A text is read if a value is read from its characters and only blanks are left. -/
theorem toOption_read (cs : List Char) :
    (read (String.ofList cs)).toOption =
      (readValue (stepsFor cs) levelLimit cs).toOption.bind fun (value, rest) =>
        if skipBlanks rest = [] then some value else none := by
  unfold read readAll
  rw [String.toList_ofList, toOption_mapError, toOption_bind]
  congr 1
  funext found
  obtain ⟨value, rest⟩ := found
  rw [toOption_bind, toOption_readEnd]
  by_cases blank : skipBlanks rest = []
  · rw [if_pos blank]
    exact (if_pos blank).symm
  · rw [if_neg blank]
    exact (if_neg blank).symm

/-- A number among other values is read as it is alone. -/
private theorem readValue_number (n : JsonNumber) (fuel levels : Nat) {rest : List Char}
    (ends : Ends rest) :
    (readValue (fuel + 1) levels (numberChars n ++ rest)).toOption =
      (read (compact (.number n))).toOption.map (·, rest) := by
  obtain ⟨found, steady⟩ := steady_number n
  have alone := steady (2 * (numberChars n).length + 1) levelLimit [] (by simp [Ends])
  have whole : (read (compact (.number n))).toOption = found.map .ofNumber := by
    rw [List.append_nil] at alone
    rw [compact, toOption_read, chars, stepsFor, alone]
    cases found <;> rfl
  rw [steady fuel levels rest ends, whole, Option.map_map]
  rfl

/-! ### Where values begin -/

/-- A value begins with a character that is no blank and closes nothing. -/
private theorem chars_head (j : Json) : ∃ c rest, chars j = c :: rest ∧
    (c == ' ' || c == '\n' || c == '\t' || c == '\r') = false ∧ c ≠ ']' := by
  cases j with
  | null => exact ⟨'n', _, rfl, by decide⟩
  | boolean b => cases b <;> exact ⟨_, _, rfl, by decide⟩
  | text s => exact ⟨'"', _, rfl, by decide⟩
  | list items => cases items <;> exact ⟨'[', _, rfl, by decide⟩
  | object members => cases members <;> exact ⟨'\x7b', _, rfl, by decide⟩
  | number n =>
    have signed (negative : Bool) {cs : List Char} (numeral : IsNumeral cs) : ∃ c rest,
        (if negative then '-' :: cs else cs) = c :: rest ∧
          (c == ' ' || c == '\n' || c == '\t' || c == '\r') = false ∧ c ≠ ']' := by
      cases negative with
      | true => exact ⟨'-', cs, rfl, by decide⟩
      | false =>
        obtain ⟨digits, atLeastOne, scale⟩ := numeral
        obtain ⟨first, others, rfl⟩ := List.exists_cons_of_ne_nil atLeastOne
        exact ⟨first, _, rfl, digit_visible (digits first List.mem_cons_self)⟩
    rcases numberChars_cases n with ⟨negative, cs, shape, numeral | rfl | ⟨rfl, rfl⟩⟩
    · rw [chars, shape]
      exact signed negative numeral
    · cases negative <;> exact ⟨_, _, shape, by decide⟩
    · exact ⟨_, _, shape, by decide⟩

/-! ### Lists and objects -/

theorem nextItem_first (j : Json) (rest : List Char) :
    nextItem true (chars j ++ rest) = .ok (.entry (chars j ++ rest)) := by
  obtain ⟨c, more, shape, visible, open_⟩ := chars_head j
  rw [shape, List.cons_append, nextItem, skipBlanks_cons visible]
  split
  · next ended => cases ended
  · next same => exact absurd (List.cons.inj same).1 open_
  · next same =>
    rw [if_pos rfl, same]

theorem nextItem_comma (j : Json) (rest : List Char) :
    nextItem false (',' :: (chars j ++ rest)) = .ok (.entry (chars j ++ rest)) := by
  obtain ⟨c, more, shape, visible, open_⟩ := chars_head j
  rw [shape, List.cons_append, nextItem, skipBlanks_cons (by decide)]
  simp [skipBlanks_cons visible, open_]

/-- An item that is read back before others that are read back. -/
private theorem readItems_entry {first : Bool} {cs more rest : List Char} {fuel levels : Nat}
    {item : Json} {items : List Json} (next : nextItem first cs = .ok (.entry (chars item ++ more)))
    (one : (readValue fuel levels (chars item ++ more)).toOption =
      (item.reread levels).map (·, more))
    (others : (readItems fuel levels false more).toOption =
      (rereadItems levels items).map (·, rest)) :
    (readItems (fuel + 1) levels first cs).toOption =
      (rereadItems levels (item :: items)).map (·, rest) := by
  have read : (readItems (fuel + 1) levels first cs).toOption =
      (readValue fuel levels (chars item ++ more)).toOption.bind fun found =>
        (readItems fuel levels false found.2).toOption.map fun founds =>
          (found.1 :: founds.1, founds.2) := by
    simp only [readItems, next, bind, Except.bind]
    cases readValue fuel levels (chars item ++ more) with
    | error failure => rfl
    | ok found =>
      simp only [Except.toOption, Option.bind]
      cases readItems fuel levels false found.2 <;> rfl
  rw [read, one]
  cases again : item.reread levels with
  | none => simp [rereadItems, again]
  | some found =>
    simp only [Option.map_some, Option.bind_some, others, rereadItems, again, Option.map_map]
    rfl

/-- A member that is read back before others that are read back. -/
private theorem readMembers_entry {first : Bool} {name : String} {cs more rest : List Char}
    {fuel levels : Nat} {value : Json} {members : List (String × Json)}
    (next : nextMember first cs = .ok (.entry (name, ':' :: (chars value ++ more))))
    (one : (readValue fuel levels (chars value ++ more)).toOption =
      (value.reread levels).map (·, more))
    (others : (readMembers fuel levels false more).toOption =
      (rereadMembers levels members).map (·, rest)) :
    (readMembers (fuel + 1) levels first cs).toOption =
      (rereadMembers levels ((name, value) :: members)).map (·, rest) := by
  have read : (readMembers (fuel + 1) levels first cs).toOption =
      (readValue fuel levels (chars value ++ more)).toOption.bind fun found =>
        (readMembers fuel levels false found.2).toOption.map fun founds =>
          ((name, found.1) :: founds.1, founds.2) := by
    simp only [readMembers, next, bind, Except.bind, readColon_colon]
    cases readValue fuel levels (chars value ++ more) with
    | error failure => rfl
    | ok found =>
      simp only [Except.toOption, Option.bind]
      cases readMembers fuel levels false found.2 <;> rfl
  rw [read, one]
  cases again : value.reread levels with
  | none => simp [rereadMembers, again]
  | some found =>
    simp only [Option.map_some, Option.bind_some, others, rereadMembers, again, Option.map_map]
    rfl

private theorem readItems_close (fuel levels : Nat) (first : Bool) (rest : List Char) :
    readItems (fuel + 1) levels first (']' :: rest) = .ok ([], rest) := by
  simp only [readItems, nextItem]
  rw [skipBlanks_cons (by decide)]
  rfl

private theorem readMembers_close (fuel levels : Nat) (first : Bool) (rest : List Char) :
    readMembers (fuel + 1) levels first ('\x7d' :: rest) = .ok ([], rest) := by
  simp only [readMembers, nextMember]
  rw [skipBlanks_cons (by decide)]
  rfl

private theorem readValue_list (fuel levels : Nat) (rest : List Char) :
    readValue (fuel + 1) (levels + 1) ('[' :: rest) =
      (readItems fuel levels true rest).map fun (items, rest) => (.list items, rest) := by
  rw [readValue, skipBlanks_cons (by decide)]
  rfl

private theorem readValue_object (fuel levels : Nat) (rest : List Char) :
    readValue (fuel + 1) (levels + 1) ('\x7b' :: rest) =
      (readMembers fuel levels true rest).map fun (members, rest) => (ofMembers members, rest) := by
  rw [readValue, skipBlanks_cons (by decide)]
  rfl

private theorem ends_itemChars (items : List Json) (rest : List Char) :
    Ends (itemChars items ++ rest) := by
  cases items <;> simp [itemChars, Ends]

private theorem ends_memberChars (members : List (String × Json)) (rest : List Char) :
    Ends (memberChars members ++ rest) := by
  cases members <;> simp [memberChars, Ends]

/-! ### Values -/

/-- Members whose names ascend are an object as they are. -/
theorem ofMembers_of_ascending {members : List (String × Json)}
    (ascending : Entries.Ascending members) : ofMembers members = .object members :=
  congrArg Json.object (Entries.foldl_insert_of_ascending [] ascending)

/-- The names stay as they are. -/
private theorem rereadMembers_ascending (levels : Nat) {members again : List (String × Json)}
    (ascending : Entries.Ascending members) (same : rereadMembers levels members = some again) :
    Entries.Ascending again := by
  have names : again.map Prod.fst = members.map Prod.fst := by
    clear ascending
    induction members generalizing again with
    | nil =>
      cases same
      rfl
    | cons m rest ih =>
      simp only [rereadMembers, Option.bind_eq_some_iff, Option.map_eq_some_iff] at same
      obtain ⟨value, _, others, found, rfl⟩ := same
      rw [List.map_cons, List.map_cons, ih found]
  unfold Entries.Ascending at ascending ⊢
  rw [← List.pairwise_map] at ascending ⊢
  rw [names]
  exact ascending

mutual

/-- A value is read from its characters as far as its numbers are, and unless it is too deep; what
ends after it is left. -/
private theorem readValue_chars : ∀ (j : Json) (fuel levels : Nat) (rest : List Char),
    j.WellFormed → 2 * (chars j).length ≤ fuel → Ends rest →
    (readValue fuel levels (chars j ++ rest)).toOption = (j.reread levels).map (·, rest)
  | j, 0, _, _, _, enough, _ => by
    obtain ⟨c, more, shape, _⟩ := chars_head j
    rw [shape, List.length_cons] at enough
    omega
  | .null, fuel + 1, levels, rest, _, _, _ => by
    simp only [chars, List.cons_append, List.nil_append, readValue]
    rw [skipBlanks_cons (by decide)]
    rfl
  | .boolean b, fuel + 1, levels, rest, _, _, _ => by
    cases b <;>
    · simp only [chars, List.cons_append, List.nil_append, readValue]
      rw [skipBlanks_cons (by decide)]
      rfl
  | .number n, fuel + 1, levels, rest, _, _, ends => readValue_number n fuel levels ends
  | .text s, fuel + 1, levels, rest, _, _, _ => by
    obtain ⟨more, shape, read⟩ := readText_textChars s rest
    rw [chars, shape, readValue, skipBlanks_cons (by decide)]
    simp [read, Except.map, Except.toOption, reread]
  | .list items, fuel + 1, 0, rest, _, _, _ => by
    cases items <;>
    · simp only [chars, List.cons_append, readValue]
      rw [skipBlanks_cons (by decide)]
      rfl
  | .list [], fuel + 1, levels + 1, rest, _, enough, _ => by
    simp only [chars, List.length_cons, List.length_nil] at enough
    obtain ⟨fuel, rfl⟩ : ∃ more, fuel = more + 1 := ⟨fuel - 1, by omega⟩
    simp only [chars, List.cons_append, List.nil_append, readValue_list, toOption_map,
      readItems_close]
    rfl
  | .list (item :: items), fuel + 1, levels + 1, rest, formed, enough, _ => by
    simp only [chars, List.length_cons, List.length_append] at enough
    obtain ⟨fuel, rfl⟩ : ∃ more, fuel = more + 1 := ⟨fuel - 1, by omega⟩
    have first := readValue_chars item fuel levels (itemChars items ++ rest) formed.1 (by omega)
      (ends_itemChars items rest)
    have others := readItems_chars items fuel levels rest formed.2 (by omega)
    simp only [chars, List.cons_append, List.append_assoc, readValue_list, toOption_map,
      readItems_entry (nextItem_first item _) first others, reread, Option.map_map]
    rfl
  | .object members, fuel + 1, 0, rest, _, _, _ => by
    cases members <;>
    · simp only [chars, List.cons_append, readValue]
      rw [skipBlanks_cons (by decide)]
      rfl
  | .object [], fuel + 1, levels + 1, rest, _, enough, _ => by
    simp only [chars, List.length_cons, List.length_nil] at enough
    obtain ⟨fuel, rfl⟩ : ∃ more, fuel = more + 1 := ⟨fuel - 1, by omega⟩
    simp only [chars, List.cons_append, List.nil_append, readValue_object, toOption_map,
      readMembers_close]
    rfl
  | .object ((name, value) :: members), fuel + 1, levels + 1, rest, formed, enough, _ => by
    simp only [chars, List.length_cons, List.length_append] at enough
    obtain ⟨fuel, rfl⟩ : ∃ more, fuel = more + 1 := ⟨fuel - 1, by omega⟩
    have first := readValue_chars value fuel levels (memberChars members ++ rest) formed.2.1
      (by omega) (ends_memberChars members rest)
    have others := readMembers_chars members fuel levels rest formed.2.2 (by omega)
    simp only [chars, List.cons_append, List.append_assoc, readValue_object, toOption_map,
      readMembers_entry (nextMember_first name _) first others, reread]
    cases again : rereadMembers levels ((name, value) :: members) with
    | none => rfl
    | some found =>
      have ascending := rereadMembers_ascending levels formed.1 again
      simp only [Option.map_some, ofMembers_of_ascending ascending]

private theorem readItems_chars : ∀ (items : List Json) (fuel levels : Nat) (rest : List Char),
    ItemsWellFormed items → 2 * (itemChars items).length ≤ fuel →
    (readItems fuel levels false (itemChars items ++ rest)).toOption =
      (rereadItems levels items).map (·, rest)
  | [], fuel, levels, rest, _, enough => by
    simp only [itemChars, List.length_cons, List.length_nil] at enough
    obtain ⟨fuel, rfl⟩ : ∃ more, fuel = more + 1 := ⟨fuel - 1, by omega⟩
    simp only [itemChars, List.cons_append, List.nil_append, readItems_close]
    rfl
  | item :: items, fuel, levels, rest, formed, enough => by
    simp only [itemChars, List.length_cons, List.length_append] at enough
    obtain ⟨fuel, rfl⟩ : ∃ more, fuel = more + 1 := ⟨fuel - 1, by omega⟩
    have first := readValue_chars item fuel levels (itemChars items ++ rest) formed.1 (by omega)
      (ends_itemChars items rest)
    have others := readItems_chars items fuel levels rest formed.2 (by omega)
    simp only [itemChars, List.cons_append, List.append_assoc]
    exact readItems_entry (nextItem_comma item _) first others

private theorem readMembers_chars : ∀ (members : List (String × Json)) (fuel levels : Nat)
    (rest : List Char), MembersWellFormed members → 2 * (memberChars members).length ≤ fuel →
    (readMembers fuel levels false (memberChars members ++ rest)).toOption =
      (rereadMembers levels members).map (·, rest)
  | [], fuel, levels, rest, _, enough => by
    simp only [memberChars, List.length_cons, List.length_nil] at enough
    obtain ⟨fuel, rfl⟩ : ∃ more, fuel = more + 1 := ⟨fuel - 1, by omega⟩
    simp only [memberChars, List.cons_append, List.nil_append, readMembers_close]
    rfl
  | (name, value) :: members, fuel, levels, rest, formed, enough => by
    simp only [memberChars, List.length_cons, List.length_append] at enough
    obtain ⟨fuel, rfl⟩ : ∃ more, fuel = more + 1 := ⟨fuel - 1, by omega⟩
    have first := readValue_chars value fuel levels (memberChars members ++ rest) formed.1
      (by omega) (ends_memberChars members rest)
    have others := readMembers_chars members fuel levels rest formed.2 (by omega)
    simp only [memberChars, List.cons_append, List.append_assoc]
    exact readMembers_entry (nextMember_comma name _) first others

end

/-- The characters of a value, and blanks after them, are read as the value is told to be read back. -/
private theorem read_chars {j : Json} (formed : j.WellFormed) {rest : List Char} (ends : Ends rest)
    (blank : skipBlanks rest = []) :
    (read (String.ofList (j.chars ++ rest))).toOption = j.reread levelLimit := by
  have enough : 2 * j.chars.length ≤ stepsFor (j.chars ++ rest) := by
    rw [stepsFor, List.length_append]
    omega
  rw [toOption_read, readValue_chars j _ levelLimit rest formed enough ends]
  cases j.reread levelLimit with
  | none => rfl
  | some again => exact if_pos blank

/-- The text of a value is read as the value is told to be read back. -/
theorem read_compact {j : Json} (formed : j.WellFormed) :
    (read j.compact).toOption = j.reread levelLimit := by
  have whole := read_chars formed (by simp [Ends]) (rfl : skipBlanks [] = [])
  rwa [List.append_nil] at whole

/-- The text of a value is read alike as a line. -/
theorem read_line {j : Json} (formed : j.WellFormed) :
    (read (j.compact ++ "\n")).toOption = j.reread levelLimit := by
  have whole := read_chars formed (by simp [Ends]) (rfl : skipBlanks ['\n'] = [])
  rwa [String.ofList_append] at whole

mutual

/-- Nothing that is nested too deep is read. -/
private theorem depth_of_reread : ∀ (levels : Nat) (j again : Json),
    j.reread levels = some again → j.depth ≤ levels
  | _, .null, _, _ => Nat.zero_le _
  | _, .boolean _, _, _ => Nat.zero_le _
  | _, .number _, _, _ => Nat.zero_le _
  | _, .text _, _, _ => Nat.zero_le _
  | 0, .list items, _, found => by cases found
  | levels + 1, .list items, _, found => by
    obtain ⟨more, founds, _⟩ := Option.map_eq_some_iff.mp found
    exact Nat.succ_le_succ (depth_of_rereadItems levels items more founds)
  | 0, .object members, _, found => by cases found
  | levels + 1, .object members, _, found => by
    obtain ⟨more, founds, _⟩ := Option.map_eq_some_iff.mp found
    exact Nat.succ_le_succ (depth_of_rereadMembers levels members more founds)

private theorem depth_of_rereadItems : ∀ (levels : Nat) (items again : List Json),
    rereadItems levels items = some again → depthItems items ≤ levels
  | _, [], _, _ => Nat.zero_le _
  | levels, item :: items, _, found => by
    simp only [rereadItems, Option.bind_eq_some_iff, Option.map_eq_some_iff] at found
    obtain ⟨value, one, more, others, _⟩ := found
    exact Nat.max_le.mpr ⟨depth_of_reread levels item value one,
      depth_of_rereadItems levels items more others⟩

private theorem depth_of_rereadMembers : ∀ (levels : Nat) (members again : List (String × Json)),
    rereadMembers levels members = some again → depthMembers members ≤ levels
  | _, [], _, _ => Nat.zero_le _
  | levels, (name, value) :: members, _, found => by
    simp only [rereadMembers, Option.bind_eq_some_iff, Option.map_eq_some_iff] at found
    obtain ⟨value', one, more, others, _⟩ := found
    exact Nat.max_le.mpr ⟨depth_of_reread levels value value' one,
      depth_of_rereadMembers levels members more others⟩

end

/-- The text of a value that is nested too deep is refused. -/
theorem read_deep {j : Json} (formed : j.WellFormed) (deep : levelLimit < j.depth) :
    ∃ e, read j.compact = .error e := by
  cases answer : read j.compact with
  | error e => exact ⟨e, rfl⟩
  | ok again =>
    have found : j.reread levelLimit = some again := by rw [← read_compact formed, answer]; rfl
    exact absurd (depth_of_reread levelLimit j again found) (Nat.not_le_of_lt deep)

/-! ### Which values survive -/

/-- An integer in range survives. -/
theorem read_integer {n : Int} (range : IntegerRange n) :
    (read (compact (.number (.integer n)))).toOption = some (.number (.integer n)) := by
  have numeral : IsNumeral (Nat.toDigits 10 n.natAbs ++ []) :=
    .mk (allDigits_toDigits n.natAbs) Nat.toDigits_ne_nil (.exponent .none)
  have signed : chars (.number (.integer n)) =
      (if decide (n < 0) then '-' :: (Nat.toDigits 10 n.natAbs ++ []) else
        Nat.toDigits 10 n.natAbs ++ []) ++ [] := by
    simp [chars, numberChars, integerChars]
  rw [compact, toOption_read, signed, stepsFor, readValue_signed _ _ _ numeral, List.append_nil,
    readNumber_integer range (by simp [Ends])]
  rfl

private theorem survives_eq (j : Json) :
    j.survives = true ↔ ∃ again, (read j.compact).toOption = some again ∧ again.same j = true := by
  unfold survives
  cases read j.compact with
  | ok again => simp [Except.toOption, BEq.beq]
  | error e => simp [Except.toOption]

mutual

/-- A value is read back as the same unless it is too deep or one of its floats is not. -/
private theorem reread_same : ∀ (levels : Nat) (j : Json), j.WellFormed →
    ((∃ again, j.reread levels = some again ∧ again.same j = true) ↔
      j.depth ≤ levels ∧ ∀ x ∈ j.floats, (number (.float x)).survives = true)
  | _, .null, _ => by simp [reread, same, depth, floats]
  | _, .boolean b, _ => by simp [reread, same, depth, floats]
  | _, .text s, _ => by simp [reread, same, depth, floats]
  | _, .number (.integer n), range => by
    simp [reread, read_integer range, same, depth, floats, BEq.beq, instBEqJsonNumber.beq]
  | _, .number (.float x), _ => by
    simp [reread, depth, floats, survives_eq]
  | 0, .list items, _ => by simp [reread, depth]
  | levels + 1, .list items, formed => by
    simpa [reread, same, depth, floats] using
      rereadItems_same levels items formed
  | 0, .object members, _ => by simp [reread, depth]
  | levels + 1, .object members, formed => by
    simpa [reread, same, depth, floats] using
      rereadMembers_same levels members formed.2

private theorem rereadItems_same : ∀ (levels : Nat) (items : List Json), ItemsWellFormed items →
    ((∃ again, rereadItems levels items = some again ∧ sameItems again items = true) ↔
      depthItems items ≤ levels ∧
        ∀ x ∈ floatsOfItems items, (number (.float x)).survives = true)
  | _, [], _ => by simp [rereadItems, sameItems, depthItems, floatsOfItems]
  | levels, item :: items, formed => by
    have first := reread_same levels item formed.1
    have others := rereadItems_same levels items formed.2
    constructor
    · rintro ⟨again, made, equal⟩
      simp only [rereadItems, Option.bind_eq_some_iff, Option.map_eq_some_iff] at made
      obtain ⟨value, found, more, founds, rfl⟩ := made
      rw [sameItems, Bool.and_eq_true] at equal
      obtain ⟨shallow, well⟩ := first.mp ⟨value, found, equal.1⟩
      obtain ⟨shallows, wells⟩ := others.mp ⟨more, founds, equal.2⟩
      exact ⟨Nat.max_le.mpr ⟨shallow, shallows⟩, fun x member =>
        (List.mem_append.mp member).elim (well x) (wells x)⟩
    · rintro ⟨shallow, well⟩
      obtain ⟨value, found, equal⟩ := first.mpr ⟨(Nat.max_le.mp shallow).1, fun x member =>
        well x (List.mem_append_left _ member)⟩
      obtain ⟨more, founds, equals⟩ := others.mpr ⟨(Nat.max_le.mp shallow).2, fun x member =>
        well x (List.mem_append_right _ member)⟩
      exact ⟨value :: more, by simp [rereadItems, found, founds], by simp [sameItems, equal, equals]⟩

private theorem rereadMembers_same : ∀ (levels : Nat) (members : List (String × Json)),
    MembersWellFormed members →
    ((∃ again, rereadMembers levels members = some again ∧ sameMembers again members = true) ↔
      depthMembers members ≤ levels ∧
        ∀ x ∈ floatsOfMembers members, (number (.float x)).survives = true)
  | _, [], _ => by simp [rereadMembers, sameMembers, depthMembers, floatsOfMembers]
  | levels, (name, value) :: members, formed => by
    have first := reread_same levels value formed.1
    have others := rereadMembers_same levels members formed.2
    constructor
    · rintro ⟨again, made, equal⟩
      simp only [rereadMembers, Option.bind_eq_some_iff, Option.map_eq_some_iff] at made
      obtain ⟨value', found, more, founds, rfl⟩ := made
      rw [sameMembers, Bool.and_eq_true, Bool.and_eq_true] at equal
      obtain ⟨shallow, well⟩ := first.mp ⟨value', found, equal.1.2⟩
      obtain ⟨shallows, wells⟩ := others.mp ⟨more, founds, equal.2⟩
      exact ⟨Nat.max_le.mpr ⟨shallow, shallows⟩, fun x member =>
        (List.mem_append.mp member).elim (well x) (wells x)⟩
    · rintro ⟨shallow, well⟩
      obtain ⟨value', found, equal⟩ := first.mpr ⟨(Nat.max_le.mp shallow).1, fun x member =>
        well x (List.mem_append_left _ member)⟩
      obtain ⟨more, founds, equals⟩ := others.mpr ⟨(Nat.max_le.mp shallow).2, fun x member =>
        well x (List.mem_append_right _ member)⟩
      exact ⟨(name, value') :: more, by simp [rereadMembers, found, founds],
        by simp [sameMembers, equal, equals]⟩

end

mutual

/-- A value without floats is read back as it is unless it is too deep. -/
private theorem reread_integers : ∀ (levels : Nat) (j : Json), j.WellFormed → j.depth ≤ levels →
    j.floats = [] → j.reread levels = some j
  | _, .null, _, _, _ => rfl
  | _, .boolean _, _, _, _ => rfl
  | _, .text _, _, _, _ => rfl
  | _, .number (.integer _), range, _, _ => read_integer range
  | levels + 1, .list items, formed, shallow, integers => by
    rw [reread, rereadItems_integers levels items formed (Nat.le_of_succ_le_succ shallow) integers]
    rfl
  | levels + 1, .object members, formed, shallow, integers => by
    rw [reread, rereadMembers_integers levels members formed.2 (Nat.le_of_succ_le_succ shallow)
      integers]
    rfl

private theorem rereadItems_integers : ∀ (levels : Nat) (items : List Json), ItemsWellFormed items →
    depthItems items ≤ levels → floatsOfItems items = [] → rereadItems levels items = some items
  | _, [], _, _, _ => rfl
  | levels, item :: items, formed, shallow, integers => by
    obtain ⟨shallow, shallows⟩ := Nat.max_le.mp shallow
    obtain ⟨integer, integers⟩ := List.append_eq_nil_iff.mp integers
    rw [rereadItems, reread_integers levels item formed.1 shallow integer,
      rereadItems_integers levels items formed.2 shallows integers]
    rfl

private theorem rereadMembers_integers : ∀ (levels : Nat) (members : List (String × Json)),
    MembersWellFormed members → depthMembers members ≤ levels → floatsOfMembers members = [] →
    rereadMembers levels members = some members
  | _, [], _, _, _ => rfl
  | levels, (name, value) :: members, formed, shallow, integers => by
    obtain ⟨shallow, shallows⟩ := Nat.max_le.mp shallow
    obtain ⟨integer, integers⟩ := List.append_eq_nil_iff.mp integers
    rw [rereadMembers, reread_integers levels value formed.1 shallow integer,
      rereadMembers_integers levels members formed.2 shallows integers]
    rfl

end

/-- The text of a value without floats stands for that value, also as a line. -/
theorem read_of_integers {j : Json} (formed : j.WellFormed) (shallow : j.depth ≤ levelLimit)
    (integers : j.floats = []) : read j.compact = .ok j ∧ read (j.compact ++ "\n") = .ok j := by
  have back := reread_integers levelLimit j formed shallow integers
  exact ⟨toOption_eq_some.mp ((read_compact formed).trans back),
    toOption_eq_some.mp ((read_line formed).trans back)⟩

/-- A value is the same after it was written and read if and only if it is not nested too deep and
each of its floats is the same after it was written and read. -/
theorem survives_iff {j : Json} (formed : j.WellFormed) :
    j.survives = true ↔
      j.depth ≤ levelLimit ∧ ∀ x ∈ j.floats, (number (.float x)).survives = true := by
  rw [survives_eq, read_compact formed]
  exact reread_same levelLimit j formed

end Sketchbook.Json
