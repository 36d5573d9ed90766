import Sketchbook.Json.Printer
import Sketchbook.Json.Typed
import Sketchbook.Proofs.Failing

/-!
Texts between quotes. Every character is read back from its escape (`readTextChars_escapeChar`), so
every text is read back from its JSON (`readText_textChars`), where a text is expected and where the
name of a member is.
-/
namespace Sketchbook.Json

/-- A hexadecimal digit is read as its value. -/
private theorem hexDigit?_digitChar : ∀ n < 16, hexDigit? (Nat.digitChar n) = some n := by
  decide

private theorem hexNumber?_digitChar (n : Nat) (small : n < 0x20) :
    hexNumber? '0' '0' (Nat.digitChar (n / 16)) (Nat.digitChar (n % 16)) = some n := by
  have zero : hexDigit? '0' = some 0 := by decide
  have high := hexDigit?_digitChar (n / 16) (by omega)
  have low := hexDigit?_digitChar (n % 16) (by omega)
  have sum : 0 * 4096 + 0 * 256 + n / 16 * 16 + n % 16 = n := by omega
  simp only [hexNumber?, zero, high, low, bind, Option.bind, pure, sum]

/-- A character that needs no escape stands for itself. -/
private theorem readTextChars_plain (c : Char) (rest : List Char) (quote : c ≠ '"')
    (backslash : c ≠ '\\') (printed : ¬ c.toNat < 0x20) :
    readTextChars (c :: rest) = prepend c (readTextChars rest) := by
  rw [readTextChars.eq_def]
  split
  · next ended => cases ended
  · next same => exact absurd (List.cons.inj same).1 quote
  · next same => exact absurd (List.cons.inj same).1 backslash
  · next same =>
    obtain ⟨rfl, rfl⟩ := List.cons.inj same
    rw [if_neg printed]

/-- What is read after an escape is read after its character. -/
theorem readTextChars_escapeChar (c : Char) (rest : List Char) :
    readTextChars (escapeChar c ++ rest) = prepend c (readTextChars rest) := by
  unfold escapeChar
  -- The seven characters with a letter of their own.
  iterate 7
    split
    · next self => rw [self]; rfl
  split
  · next control =>
    have number := hexNumber?_digitChar c.toNat control
    have lone : isTrailing c.toNat = false := by simp [isTrailing]; omega
    have single : isLeading c.toNat = false := by simp [isLeading]; omega
    simp only [List.cons_append, List.nil_append]
    rw [readTextChars.eq_def]
    simp [number, lone, single, Char.ofNat_toNat]
  · next quote backslash _ _ _ _ _ printed => exact readTextChars_plain c rest quote backslash printed

private theorem readTextChars_flatMap (cs rest : List Char) :
    readTextChars (cs.flatMap escapeChar ++ '"' :: rest) = .ok (cs, rest) := by
  induction cs with
  | nil => rfl
  | cons c cs ih =>
    rw [List.flatMap_cons, List.append_assoc, readTextChars_escapeChar, ih]
    rfl

/-- A text is read back, whatever characters it has. -/
theorem readText_textChars (s : String) (rest : List Char) :
    ∃ read, textChars s ++ rest = '"' :: read ∧ readText read = .ok (s, rest) := by
  refine ⟨s.toList.flatMap escapeChar ++ '"' :: rest, by simp [textChars], ?_⟩
  rw [readText, readTextChars_flatMap]
  simp [Except.map]

/-! ### Where texts stand -/

/-- No blank comes first. -/
theorem skipBlanks_cons {c : Char} {rest : List Char}
    (visible : (c == ' ' || c == '\n' || c == '\t' || c == '\r') = false) :
    skipBlanks (c :: rest) = c :: rest := by
  simp only [skipBlanks, List.dropWhile_cons, visible, Bool.false_eq_true, ↓reduceIte]

theorem readColon_colon (rest : List Char) : readColon (':' :: rest) = .ok rest := by
  rw [readColon, skipBlanks_cons (by decide)]
  rfl

/-- A whole text is read if only blanks are left behind what is read. -/
theorem readAll_eq_ok {α : Type} {reader : List Char → Except Failure (α × List Char)} {text : String}
    {a : α} : readAll reader text = .ok a ↔
      ∃ rest, reader text.toList = .ok (a, rest) ∧ readEnd rest = .ok () := by
  unfold readAll
  rw [mapError_eq_ok]
  constructor
  · intro read
    obtain ⟨⟨value, rest⟩, found, read⟩ := bind_eq_ok.mp read
    obtain ⟨_, ended, same⟩ := bind_eq_ok.mp read
    cases same
    exact ⟨rest, found, ended⟩
  · rintro ⟨rest, found, ended⟩
    exact bind_eq_ok.mpr ⟨(a, rest), found, bind_eq_ok.mpr ⟨(), ended, rfl⟩⟩

theorem expectText_textChars (s : String) (rest : List Char) :
    expectText (textChars s ++ rest) = .ok (s, rest) := by
  obtain ⟨read, shape, text⟩ := readText_textChars s rest
  rw [shape, expectText, skipBlanks_cons (by decide)]
  exact text

/-- Every text is read back from its JSON text. -/
theorem readAll_text (s : String) : readAll expectText (compact (.text s)) = .ok s := by
  rw [readAll_eq_ok, compact, String.toList_ofList, chars]
  refine ⟨[], ?_, rfl⟩
  have read := expectText_textChars s []
  rwa [List.append_nil] at read

theorem nextMember_first (name : String) (rest : List Char) :
    nextMember true (textChars name ++ rest) = .ok (.entry (name, rest)) := by
  obtain ⟨more, shape, read⟩ := readText_textChars name rest
  rw [shape, nextMember, skipBlanks_cons (by decide)]
  simp [read, Except.map]

theorem nextMember_comma (name : String) (rest : List Char) :
    nextMember false (',' :: (textChars name ++ rest)) = .ok (.entry (name, rest)) := by
  obtain ⟨more, shape, read⟩ := readText_textChars name rest
  have quote : skipBlanks ('"' :: more) = '"' :: more := skipBlanks_cons (by decide)
  rw [shape, nextMember, skipBlanks_cons (by decide)]
  simp [quote, read, Except.map]

end Sketchbook.Json
