import Sketchbook.Proofs.Json.Number
import Sketchbook.Proofs.Json.Text

/-!
JSON text and lines. A value without blanks is told on one line, whatever texts it holds
(`newline_not_mem_compact`), and an object of texts with one member on a line is read back as the
members that were told (`readAll_indented`).
-/
namespace Sketchbook.Json

/-! ### Values on one line -/

private theorem newline_not_mem_digits {cs : List Char} (digits : AllDigits cs) : '\n' ∉ cs :=
  fun inside => absurd (digits '\n' inside) (by decide)

private theorem newline_not_mem_exponent {cs : List Char} (exponent : IsExponent cs) :
    '\n' ∉ cs := by
  cases exponent with
  | none => exact List.not_mem_nil
  | some sign digits atLeastOne =>
    have free := newline_not_mem_digits digits
    rcases sign with rfl | rfl <;> simpa using free

private theorem newline_not_mem_numeral {cs : List Char} (numeral : IsNumeral cs) : '\n' ∉ cs := by
  obtain ⟨digits, _, scale⟩ := numeral
  have whole := newline_not_mem_digits digits
  cases scale with
  | exponent exponent => simpa [whole] using newline_not_mem_exponent exponent
  | fraction places _ exponent =>
    simpa [whole, newline_not_mem_digits places] using newline_not_mem_exponent exponent

private theorem newline_not_mem_numberChars (n : JsonNumber) : '\n' ∉ numberChars n := by
  obtain ⟨negative, cs, shape, known⟩ := numberChars_cases n
  have free : '\n' ∉ cs := by
    rcases known with numeral | rfl | ⟨_, rfl⟩
    · exact newline_not_mem_numeral numeral
    · decide
    · decide
  rw [shape]
  cases negative with
  | true => simpa using free
  | false => exact free

/-- A hexadecimal digit ends no line. -/
private theorem digitChar_ne_newline : ∀ n < 16, '\n' ≠ Nat.digitChar n := by
  decide

private theorem newline_not_mem_escapeChar (c : Char) : '\n' ∉ escapeChar c := by
  unfold escapeChar
  iterate 4
    split
    · decide
  split
  · decide
  next other =>
    iterate 2
      split
      · decide
    split
    · next control =>
      have high := digitChar_ne_newline (c.toNat / 16) (by omega)
      have low := digitChar_ne_newline (c.toNat % 16) (by omega)
      simp [high, low]
    · simpa using Ne.symm other

private theorem newline_not_mem_textChars (s : String) : '\n' ∉ textChars s := by
  simp [textChars, newline_not_mem_escapeChar]

mutual

private theorem newline_not_mem_chars : ∀ j : Json, '\n' ∉ chars j
  | .null => by decide
  | .boolean true => by decide
  | .boolean false => by decide
  | .number n => newline_not_mem_numberChars n
  | .text s => newline_not_mem_textChars s
  | .list [] => by decide
  | .list (item :: rest) => by
    simp [chars, newline_not_mem_chars item, newline_not_mem_itemChars rest]
  | .object [] => by decide
  | .object ((name, value) :: rest) => by
    simp [chars, newline_not_mem_textChars name, newline_not_mem_chars value,
      newline_not_mem_memberChars rest]

private theorem newline_not_mem_itemChars : ∀ items : List Json, '\n' ∉ itemChars items
  | [] => by decide
  | item :: rest => by
    simp [itemChars, newline_not_mem_chars item, newline_not_mem_itemChars rest]

private theorem newline_not_mem_memberChars : ∀ members : List (String × Json),
    '\n' ∉ memberChars members
  | [] => by decide
  | (name, value) :: rest => by
    simp [memberChars, newline_not_mem_textChars name, newline_not_mem_chars value,
      newline_not_mem_memberChars rest]

end

/-- A value without blanks is one line of text. -/
theorem newline_not_mem_compact (j : Json) : '\n' ∉ j.compact.toList := by
  rw [compact, String.toList_ofList]
  exact newline_not_mem_chars j

/-! ### Objects with one member on a line -/

/-- A member on a line of its own, after the end of the line before. -/
private def memberLine (entry : String × String) : List Char :=
  '\n' :: ' ' :: ' ' :: (textChars entry.1 ++ ':' :: ' ' :: textChars entry.2)

/-- The lines after that of a member. -/
private def linesAfter : List (String × String) → List Char
  | [] => ['\n', '\x7d']
  | entry :: rest => ',' :: (memberLine entry ++ linesAfter rest)

private theorem intercalate_lines (entry : String × String) (rest : List (String × String)) :
    List.intercalate [','] ((entry :: rest).map memberLine) ++ ['\n', '\x7d'] =
      memberLine entry ++ linesAfter rest := by
  induction rest generalizing entry with
  | nil => simp [linesAfter]
  | cons next rest ih =>
    rw [linesAfter, ← ih next]
    simp [List.intercalate]

private theorem indentedChars_cons (entry : String × String) (rest : List (String × String)) :
    indentedChars (entry :: rest) = '\x7b' :: (memberLine entry ++ linesAfter rest) := by
  rw [← intercalate_lines]
  rfl

/-- Blanks before a visible character are skipped. -/
private theorem skipBlanks_memberLine (entry : String × String) (rest : List Char) : ∃ read,
    skipBlanks (memberLine entry ++ rest) = '"' :: read ∧
      readText read = .ok (entry.1, ':' :: ' ' :: (textChars entry.2 ++ rest)) := by
  obtain ⟨read, shape, same⟩ :=
    readText_textChars entry.1 (':' :: ' ' :: (textChars entry.2 ++ rest))
  refine ⟨read, ?_, same⟩
  rw [← shape]
  simp [memberLine, skipBlanks, textChars]

private theorem nextMember_line (first : Bool) (entry : String × String) (rest : List Char) :
    nextMember first ((if first then [] else [',']) ++ (memberLine entry ++ rest)) =
      .ok (.entry (entry.1, ':' :: ' ' :: (textChars entry.2 ++ rest))) := by
  obtain ⟨read, visible, same⟩ := skipBlanks_memberLine entry rest
  cases first with
  | true => simp [nextMember, visible, same, Except.map]
  | false =>
    have comma : skipBlanks (',' :: (memberLine entry ++ rest)) = ',' :: (memberLine entry ++ rest) :=
      rfl
    simp [nextMember, comma, visible, same, Except.map]

/-- A text is found behind a blank, too. -/
private theorem expectText_blank (s : String) (rest : List Char) :
    expectText (' ' :: (textChars s ++ rest)) = .ok (s, rest) :=
  expectText_textChars s rest

/-- A member on its line is read before those on the lines after it. -/
private theorem readTextMembers_line (fuel : Nat) (first : Bool) (entry : String × String)
    (rest : List Char) :
    readTextMembers (fuel + 1) first ((if first then [] else [',']) ++ (memberLine entry ++ rest)) =
      (readTextMembers fuel false rest).map fun (members, rest) => (entry :: members, rest) := by
  simp only [readTextMembers, nextMember_line, bind, Except.bind, readColon_colon, expectText_blank]
  cases readTextMembers fuel false rest <;> rfl

private theorem readTextMembers_linesAfter (entries : List (String × String)) {fuel : Nat}
    (enough : entries.length < fuel) :
    readTextMembers fuel false (linesAfter entries) = .ok (entries, []) := by
  induction entries generalizing fuel with
  | nil =>
    obtain ⟨fuel, rfl⟩ : ∃ more, fuel = more + 1 := ⟨fuel - 1, by omega⟩
    rfl
  | cons entry rest ih =>
    rw [List.length_cons] at enough
    obtain ⟨fuel, rfl⟩ : ∃ more, fuel = more + 1 := ⟨fuel - 1, by omega⟩
    have read := readTextMembers_line fuel false entry (linesAfter rest)
    rw [ih (by omega)] at read
    exact read

private theorem length_linesAfter (entries : List (String × String)) :
    entries.length ≤ (linesAfter entries).length := by
  induction entries with
  | nil => exact Nat.zero_le _
  | cons entry rest ih =>
    simp only [linesAfter, List.length_cons, List.length_append]
    omega

private theorem expectTextMembers_indentedChars (entries : List (String × String)) :
    expectTextMembers (indentedChars entries) = .ok (entries, []) := by
  cases entries with
  | nil => rfl
  | cons entry rest =>
    have brace : skipBlanks ('\x7b' :: (memberLine entry ++ linesAfter rest)) =
        '\x7b' :: (memberLine entry ++ linesAfter rest) := rfl
    have enough : rest.length < 2 * (memberLine entry ++ linesAfter rest).length + 1 := by
      have lines := length_linesAfter rest
      rw [List.length_append]
      omega
    have read := readTextMembers_line (2 * (memberLine entry ++ linesAfter rest).length + 1) true entry
      (linesAfter rest)
    rw [readTextMembers_linesAfter rest enough] at read
    rw [indentedChars_cons, expectTextMembers, brace]
    exact read

/-- An object of texts is read back from its lines, whatever its names and texts are. -/
theorem readAll_indented (entries : List (String × String)) :
    readAll expectTextMembers (indented entries) = .ok entries := by
  have read := expectTextMembers_indentedChars entries
  unfold readAll indented
  rw [String.toList_ofList, read]
  rfl

end Sketchbook.Json
