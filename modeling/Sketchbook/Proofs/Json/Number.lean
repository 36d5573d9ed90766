import Sketchbook.Json.Printer
import Sketchbook.Json.Reader
import Sketchbook.Proofs.Failing

/-!
Numbers. A numeral is read to its end, and whether it can be read and as what does not depend on what
stands after it (`steady_numeral`). Every finite float is written as a numeral, and so is every
integer, which is read back as itself.
-/
namespace Sketchbook.Json

/-- A value ends before the rest: at the end of the text, at a comma, at a closing bracket or at the end
of a line. -/
def Ends (rest : List Char) : Prop :=
  ∀ c ∈ rest.head?, c = ',' ∨ c = ']' ∨ c = '\x7d' ∨ c = '\n'

/-- No digit comes next. -/
def DigitsEnd (rest : List Char) : Prop := ∀ c ∈ rest.head?, digit? c = none

def AllDigits (cs : List Char) : Prop := ∀ c ∈ cs, isDigit c = true

/-- The exponent of a numeral, or none. -/
inductive IsExponent : List Char → Prop where
  | none : IsExponent []
  | some (sign : c = '+' ∨ c = '-') (digits : AllDigits power) (atLeastOne : power ≠ []) :
      IsExponent ('e' :: c :: power)

/-- What may follow the first digits of a numeral. -/
inductive IsScale : List Char → Prop where
  | exponent (exponent : IsExponent power) : IsScale power
  | fraction (places : AllDigits part) (atLeastOne : part ≠ []) (exponent : IsExponent power) :
      IsScale ('.' :: (part ++ power))

/-- Digits, with a fraction and an exponent if there are any. -/
inductive IsNumeral : List Char → Prop where
  | mk (digits : AllDigits whole) (atLeastOne : whole ≠ []) (scale : IsScale power) :
      IsNumeral (whole ++ power)

/-- A reader takes just these characters, whatever value ends after them, or it fails. -/
def Steady (reader : List Char → Except Failure (α × List Char)) (cs : List Char) : Prop :=
  ∃ read : Option α, ∀ rest, Ends rest → (reader (cs ++ rest)).toOption = read.map (·, rest)

/-! ### Where digits end -/

theorem isDigit_eq (c : Char) : isDigit c = c.isDigit := by
  unfold isDigit digit? Char.isDigit
  split
  · next inside => simpa [Char.le_def] using inside
  · next outside => simpa [Char.le_def] using outside

theorem allDigits_toDigits (n : Nat) : AllDigits (Nat.toDigits 10 n) := fun c member => by
  rw [isDigit_eq]
  exact Nat.isDigit_of_mem_toDigits (by decide) (by decide) member

theorem AllDigits.append {first second : List Char} (left : AllDigits first)
    (right : AllDigits second) : AllDigits (first ++ second) := fun c member =>
  (List.mem_append.mp member).elim (left c) (right c)

theorem Ends.digitsEnd {rest : List Char} (ends : Ends rest) : DigitsEnd rest := by
  intro c first
  rcases ends c first with rfl | rfl | rfl | rfl <;> decide

theorem digitsEnd_exponent {power rest : List Char} (exponent : IsExponent power)
    (ends : Ends rest) : DigitsEnd (power ++ rest) := by
  cases exponent with
  | none => exact ends.digitsEnd
  | some sign digits atLeastOne =>
    intro c first
    obtain rfl : 'e' = c := by simpa using first
    decide

theorem digitsEnd_scale {power rest : List Char} (scale : IsScale power) (ends : Ends rest) :
    DigitsEnd (power ++ rest) := by
  cases scale with
  | exponent exponent => exact digitsEnd_exponent exponent ends
  | fraction places atLeastOne exponent =>
    intro c first
    obtain rfl : '.' = c := by simpa using first
    decide

/-- After digits, nothing but these digits is dropped. -/
theorem dropWhile_digits {digits rest : List Char} (all : AllDigits digits) (ends : DigitsEnd rest) :
    (digits ++ rest).dropWhile isDigit = rest ∧ (digits ++ rest).takeWhile isDigit = digits := by
  have stop : rest.dropWhile isDigit = rest ∧ rest.takeWhile isDigit = [] := by
    cases rest with
    | nil => exact ⟨rfl, rfl⟩
    | cons c rest =>
      have other : isDigit c = false := by simp [isDigit, ends c rfl]
      simp [other]
  rw [List.dropWhile_append_of_pos all, List.takeWhile_append_of_pos all, stop.1, stop.2,
    List.append_nil]
  exact ⟨rfl, rfl⟩

/-- Digits are gathered as far as they fit, and what follows them is left. -/
theorem gatherDigits_append {digits : List Char} (all : AllDigits digits) (significand : Nat) :
    ∃ total count left, AllDigits left ∧ ∀ rest, DigitsEnd rest →
      gatherDigits significand (digits ++ rest) = (total, count, left ++ rest) := by
  induction digits generalizing significand with
  | nil =>
    refine ⟨significand, 0, [], by simp [AllDigits], fun rest ends => ?_⟩
    cases rest with
    | nil => rfl
    | cons c rest => simp [gatherDigits, ends c rfl]
  | cons c digits ih =>
    obtain ⟨d, value⟩ := Option.isSome_iff_exists.mp (all c List.mem_cons_self)
    have others : AllDigits digits := fun c member => all c (List.mem_cons_of_mem _ member)
    by_cases fits : significand * 10 + d ≤ significandLimit
    · obtain ⟨total, count, left, rest⟩ := ih others (significand * 10 + d)
      refine ⟨total, count + 1, left, rest.1, fun more ends => ?_⟩
      simp [gatherDigits, value, fits, rest.2 more ends]
    · refine ⟨significand, 0, c :: digits, all, fun more _ => ?_⟩
      simp [gatherDigits, value, fits]

/-! ### Numerals -/

private theorem steady_finishFloat (negative : Bool) (significand : Nat) (exponent : Int) :
    Steady (finishFloat negative significand exponent) [] := by
  refine ⟨(scale? significand exponent).map (signedFloat negative), fun rest _ => ?_⟩
  rw [List.nil_append, finishFloat]
  cases scale? significand exponent <;> rfl

private theorem steady_readExponentDigits (tooLarge : Bool) {digits : List Char}
    (all : AllDigits digits) (exponent : Nat) :
    Steady (readExponentDigits tooLarge exponent) digits := by
  induction digits generalizing exponent with
  | nil =>
    refine ⟨some (some exponent), fun rest ends => ?_⟩
    cases rest with
    | nil => rfl
    | cons c rest => simp [readExponentDigits, ends.digitsEnd c rfl, Except.toOption]
  | cons c digits ih =>
    obtain ⟨d, value⟩ := Option.isSome_iff_exists.mp (all c List.mem_cons_self)
    have others : AllDigits digits := fun c member => all c (List.mem_cons_of_mem _ member)
    by_cases fits : exponent * 10 + d ≤ exponentLimit
    · obtain ⟨read, steady⟩ := ih others (exponent * 10 + d)
      exact ⟨read, fun rest ends => by simpa [readExponentDigits, value, fits] using steady rest ends⟩
    · cases tooLarge with
      | true => exact ⟨none, fun rest _ => by simp [readExponentDigits, value, fits, Except.toOption]⟩
      | false =>
        refine ⟨some none, fun rest ends => ?_⟩
        simp [readExponentDigits, value, fits, Except.toOption,
          (dropWhile_digits others ends.digitsEnd).1]

/-- After a sign and a digit the other digits of an exponent are read. -/
private theorem readExponent_signed (negative : Bool) (significand : Nat) (exponent : Int)
    {c first : Char} {d : Nat} (sign : c = '+' ∨ c = '-') (value : digit? first = some d) :
    ∃ down : Bool, ∀ rest, readExponent negative significand exponent (c :: first :: rest) =
      readExponentDigits (significand ≠ 0 && !down) d rest >>= fun (shift, rest) =>
        match shift with
        | none => .ok (signedFloat negative 0, rest)
        | some shift => finishFloat negative significand
            (if down then exponent - shift else exponent + shift) rest := by
  rcases sign with rfl | rfl
  · refine ⟨false, fun rest => ?_⟩
    have up := readExponent.eq_def negative significand exponent ('+' :: first :: rest)
    simp only [value] at up
    exact up
  · refine ⟨true, fun rest => ?_⟩
    have down := readExponent.eq_def negative significand exponent ('-' :: first :: rest)
    simp only [value] at down
    exact down

private theorem steady_readExponent (negative : Bool) (significand : Nat) (exponent : Int)
    {c : Char} {power : List Char} (sign : c = '+' ∨ c = '-') (digits : AllDigits power)
    (atLeastOne : power ≠ []) :
    Steady (readExponent negative significand exponent) (c :: power) := by
  obtain ⟨first, others, rfl⟩ := List.exists_cons_of_ne_nil atLeastOne
  obtain ⟨d, value⟩ := Option.isSome_iff_exists.mp (digits first List.mem_cons_self)
  have more : AllDigits others := fun c member => digits c (List.mem_cons_of_mem _ member)
  obtain ⟨down, shape⟩ := readExponent_signed negative significand exponent sign value
  obtain ⟨read, steady⟩ := steady_readExponentDigits (significand ≠ 0 && !down) more d
  have started (rest : List Char) := congrArg Except.toOption (shape (others ++ rest))
  simp only [toOption_bind] at started
  cases read with
  | none =>
    refine ⟨none, fun rest ends => (started rest).trans ?_⟩
    rw [steady rest ends]
    rfl
  | some shift =>
    cases shift with
    | none =>
      refine ⟨some (signedFloat negative 0), fun rest ends => (started rest).trans ?_⟩
      rw [steady rest ends]
      rfl
    | some shift =>
      obtain ⟨finished, last⟩ := steady_finishFloat negative significand
        (if down then exponent - shift else exponent + shift)
      refine ⟨finished, fun rest ends => (started rest).trans ?_⟩
      rw [steady rest ends, ← last rest ends]
      rfl

private theorem steady_readScale (negative : Bool) (significand : Nat) (exponent : Int)
    {power : List Char} (shape : IsExponent power) :
    Steady (readScale negative significand exponent) power := by
  cases shape with
  | none =>
    obtain ⟨read, steady⟩ := steady_finishFloat negative significand exponent
    refine ⟨read, fun rest ends => ?_⟩
    rw [← steady rest ends, List.nil_append, readScale]
    · intro more same
      simp [same, Ends] at ends
    · intro more same
      simp [same, Ends] at ends
  | some sign digits atLeastOne =>
    exact steady_readExponent negative significand exponent sign digits atLeastOne

private theorem steady_readFraction (negative : Bool) (significand : Nat) (exponent : Int)
    {part power : List Char} (places : AllDigits part) (atLeastOne : part ≠ [])
    (shape : IsExponent power) :
    Steady (readFraction negative significand exponent) (part ++ power) := by
  obtain ⟨total, count, left, digits, gathered⟩ := gatherDigits_append places significand
  obtain ⟨read, steady⟩ := steady_readScale negative total (exponent - count) shape
  refine ⟨read, fun rest ends => ?_⟩
  have stop := digitsEnd_exponent shape ends
  obtain ⟨first, others, rfl⟩ := List.exists_cons_of_ne_nil atLeastOne
  have digit := places first List.mem_cons_self
  rw [← steady rest ends, List.append_assoc, List.cons_append, readFraction, if_pos digit,
    ← List.cons_append, gathered _ stop]
  simp only [(dropWhile_digits digits stop).1]

private theorem steady_readIntegerEnd (negative : Bool) (significand dropped : Nat)
    {power : List Char} (scale : IsScale power) :
    Steady (readIntegerEnd negative significand dropped) power := by
  cases scale with
  | fraction places atLeastOne exponent =>
    exact steady_readFraction negative significand dropped places atLeastOne exponent
  | exponent exponent =>
    cases exponent with
    | some sign digits atLeastOne =>
      exact steady_readExponent negative significand dropped sign digits atLeastOne
    | none =>
      have whole (rest : List Char) (ends : Ends rest) :
          readIntegerEnd negative significand dropped rest =
            if dropped = 0 then .ok (signedInteger negative significand, rest)
            else finishFloat negative significand dropped rest := by
        rw [readIntegerEnd] <;> intro more same <;> simp [same, Ends] at ends
      by_cases undropped : dropped = 0
      · refine ⟨some (signedInteger negative significand), fun rest ends => ?_⟩
        rw [List.nil_append, whole rest ends, if_pos undropped]
        rfl
      · obtain ⟨read, steady⟩ := steady_finishFloat negative significand dropped
        refine ⟨read, fun rest ends => ?_⟩
        rw [← steady rest ends, List.nil_append, whole rest ends, if_neg undropped]

/-- A numeral is read to its end, whatever it is followed by, or it cannot be read at all. -/
theorem steady_numeral (negative : Bool) {cs : List Char} (numeral : IsNumeral cs) :
    Steady (readNumber negative) cs := by
  obtain ⟨digits, atLeastOne, scale⟩ := numeral
  rename_i whole power
  obtain ⟨first, others, rfl⟩ := List.exists_cons_of_ne_nil atLeastOne
  by_cases zero : first = '0'
  · subst zero
    cases others with
    | nil =>
      obtain ⟨read, steady⟩ := steady_readIntegerEnd negative 0 0 scale
      refine ⟨read, fun rest ends => ?_⟩
      have stop := digitsEnd_scale scale ends
      rw [← steady rest ends]
      simp only [List.cons_append, List.nil_append, readNumber]
      split
      · next c more same =>
        have other : isDigit c = false := by simp [isDigit, stop c (by rw [same]; rfl)]
        rw [other]
        rfl
      · next same => rw [same]
    | cons second others =>
      have digit := digits second (by simp)
      exact ⟨none, fun rest _ => by simp [readNumber, digit, Except.toOption]⟩
  · obtain ⟨total, count, left, more, gathered⟩ := gatherDigits_append digits 0
    obtain ⟨read, steady⟩ := steady_readIntegerEnd negative total left.length scale
    refine ⟨read, fun rest ends => ?_⟩
    have stop := digitsEnd_scale scale ends
    have digit := digits first List.mem_cons_self
    rw [← steady rest ends, List.append_assoc, List.cons_append, readNumber, if_pos digit,
      ← List.cons_append, gathered _ stop]
    · simp [(dropWhile_digits more stop).2]
    · exact zero

/-! ### Floats are written as numerals -/

private theorem allDigits_zeros (n : Nat) : AllDigits (List.replicate n '0') := fun c member => by
  rw [List.eq_of_mem_replicate member]
  decide

private theorem numeral_positional (d : Decimal.Digits) : IsNumeral d.positional := by
  have zero : AllDigits ['0'] := allDigits_zeros 1
  have digits := allDigits_toDigits d.digits
  have nonempty : Nat.toDigits 10 d.digits ≠ [] := Nat.toDigits_ne_nil
  unfold Decimal.Digits.positional
  split
  · next n _ =>
    have tail : IsScale ['.', '0'] := .fraction zero (by simp) .none
    exact .mk (digits.append (allDigits_zeros n)) (by simp) tail
  · next n _ =>
    generalize Nat.toDigits 10 d.digits = ds at digits nonempty
    simp only
    split
    · next short =>
      have tail := IsScale.fraction ((allDigits_zeros (n + 1 - ds.length)).append digits)
        (by simp [nonempty]) .none
      have whole := IsNumeral.mk zero (by simp) tail
      simpa using whole
    · next long =>
      have front : AllDigits (ds.take (ds.length - (n + 1))) := fun c member =>
        digits c (List.mem_of_mem_take member)
      have back : AllDigits (ds.drop (ds.length - (n + 1))) := fun c member =>
        digits c (List.mem_of_mem_drop member)
      have left : ds.take (ds.length - (n + 1)) ≠ [] := by
        have places : ds.length - (n + 1) ≠ 0 := by omega
        simp [List.take_eq_nil_iff, places, nonempty]
      have right : ds.drop (ds.length - (n + 1)) ≠ [] := by
        rw [ne_eq, List.drop_eq_nil_iff]
        omega
      have whole := IsNumeral.mk front left (.fraction back right .none)
      simpa using whole

private theorem numeral_scientific (d : Decimal.Digits) : IsNumeral d.scientific := by
  have digits := allDigits_toDigits d.digits
  have nonempty : Nat.toDigits 10 d.digits ≠ [] := Nat.toDigits_ne_nil
  have exponent : IsExponent ('e' :: (if d.leading < 0 then '-' else '+') ::
      Nat.toDigits 10 d.leading.natAbs) := by
    refine .some ?_ (allDigits_toDigits _) Nat.toDigits_ne_nil
    split
    · exact Or.inr rfl
    · exact Or.inl rfl
  unfold Decimal.Digits.scientific
  generalize Nat.toDigits 10 d.digits = ds at digits nonempty
  cases ds with
  | nil => exact absurd rfl nonempty
  | cons first others =>
    have one : AllDigits [first] := by simpa [AllDigits] using digits first List.mem_cons_self
    cases others with
    | nil => exact .mk one (by simp) (.exponent exponent)
    | cons second others =>
      have places : AllDigits (second :: others) := fun c member =>
        digits c (List.mem_cons_of_mem _ member)
      have whole := IsNumeral.mk one (by simp) (.fraction places (by simp) exponent)
      simpa using whole

/-- A number is written as a numeral of its sign, or else as a word that is no JSON. -/
theorem numberChars_cases (n : JsonNumber) : ∃ negative cs,
    numberChars n = (if negative then '-' :: cs else cs) ∧
      (IsNumeral cs ∨ cs = ['i', 'n', 'f'] ∨ negative = false ∧ cs = ['N', 'a', 'N']) := by
  cases n with
  | integer n =>
    have whole : IsNumeral (Nat.toDigits 10 n.natAbs ++ []) :=
      .mk (allDigits_toDigits n.natAbs) Nat.toDigits_ne_nil (.exponent .none)
    rw [List.append_nil] at whole
    exact ⟨decide (n < 0), _, by simp [numberChars, integerChars], Or.inl whole⟩
  | float x =>
    simp only [numberChars, Decimal.Style.render]
    cases Decimal.Binary64.ofFloat x with
    | nan =>
      have word : Decimal.compactStyle.nan.toList = ['N', 'a', 'N'] := by decide
      exact ⟨false, _, word, Or.inr (Or.inr ⟨rfl, rfl⟩)⟩
    | infinite negative =>
      have word : Decimal.compactStyle.infinity.toList = ['i', 'n', 'f'] := by decide
      exact ⟨negative, _, by simp [word], Or.inr (Or.inl rfl)⟩
    | finite negative mantissa exponent =>
      cases mantissa with
      | zero =>
        have zero : AllDigits ['0'] := allDigits_zeros 1
        have whole : IsNumeral ['0', '.', '0'] := .mk zero (by simp) (.fraction zero (by simp) .none)
        exact ⟨negative, _, by simp, Or.inl whole⟩
      | succ n =>
        let d := Decimal.shortest (n + 1) exponent
        refine ⟨negative, if Decimal.compactStyle.positional d.leading then d.positional
          else d.scientific, by simp [d], Or.inl ?_⟩
        split
        · exact numeral_positional d
        · exact numeral_scientific d

/-! ### Integers are read back -/

private theorem digit?_digitChar : ∀ n < 10, digit? (Nat.digitChar n) = some n := by
  decide

/-- The digits of a number gather to it, as long as it fits. -/
private theorem gatherDigits_toDigits (n : Nat) (fits : n ≤ significandLimit) :
    ∃ count, ∀ rest, gatherDigits 0 (Nat.toDigits 10 n ++ rest) =
      ((gatherDigits n rest).1, (gatherDigits n rest).2.1 + count, (gatherDigits n rest).2.2) := by
  induction n using Nat.strongRecOn with
  | ind n ih =>
    by_cases small : n < 10
    · refine ⟨1, fun rest => ?_⟩
      simp [Nat.toDigits_of_lt_base small, gatherDigits, digit?_digitChar n small, fits]
    · obtain ⟨count, gathered⟩ := ih (n / 10) (by omega) (by omega)
      refine ⟨count + 1, fun rest => ?_⟩
      have value := digit?_digitChar (n % 10) (by omega)
      have whole : n / 10 * 10 + n % 10 = n := by omega
      rw [Nat.toDigits_of_base_le (by decide) (by omega), List.append_assoc, gathered]
      simp [gatherDigits, value, whole, fits, Nat.add_assoc, Nat.add_comm count]

private theorem head_toDigits (n : Nat) (positive : 0 < n) :
    ∃ first others, Nat.toDigits 10 n = first :: others ∧ first ≠ '0' := by
  induction n using Nat.strongRecOn with
  | ind n ih =>
    by_cases small : n < 10
    · refine ⟨Nat.digitChar n, [], Nat.toDigits_of_lt_base small, ?_⟩
      rw [ne_eq, Nat.digitChar_eq_zero]
      omega
    · obtain ⟨first, others, shape, nonzero⟩ := ih (n / 10) (by omega) (by omega)
      refine ⟨first, others ++ [Nat.digitChar (n % 10)], ?_, nonzero⟩
      rw [Nat.toDigits_of_base_le (by decide) (by omega), shape, List.cons_append]

private theorem readNumber_toDigits (negative : Bool) (n : Nat) (fits : n ≤ significandLimit)
    {rest : List Char} (ends : Ends rest) :
    readNumber negative (Nat.toDigits 10 n ++ rest) = .ok (signedInteger negative n, rest) := by
  have whole : readIntegerEnd negative n 0 rest = .ok (signedInteger negative n, rest) := by
    rw [readIntegerEnd]
    · rfl
    all_goals intro more same; simp [same, Ends] at ends
  rcases Nat.eq_zero_or_pos n with rfl | positive
  · simp only [Nat.toDigits_zero, List.cons_append, List.nil_append, readNumber]
    cases rest with
    | nil => exact whole
    | cons c rest =>
      have other : isDigit c = false := by simp [isDigit, ends.digitsEnd c rfl]
      simpa [other] using whole
  · obtain ⟨count, gathered⟩ := gatherDigits_toDigits n fits
    obtain ⟨first, others, shape, nonzero⟩ := head_toDigits n positive
    have digit : isDigit first = true :=
      allDigits_toDigits n first (by rw [shape]; exact List.mem_cons_self)
    have stop : gatherDigits n rest = (n, 0, rest) := by
      cases rest with
      | nil => rfl
      | cons c rest => simp [gatherDigits, ends.digitsEnd c rfl]
    have before : rest.takeWhile isDigit = [] := by
      exact (dropWhile_digits (show AllDigits [] by simp [AllDigits]) ends.digitsEnd).2
    have all := gathered rest
    rw [shape, List.cons_append] at all ⊢
    rw [readNumber, if_pos digit, all, stop]
    · simpa [before] using whole
    · exact nonzero

/-- Every integer in range is read back from its digits, after its sign. -/
theorem readNumber_integer {n : Int} (range : IntegerRange n) {rest : List Char} (ends : Ends rest) :
    readNumber (decide (n < 0)) (Nat.toDigits 10 n.natAbs ++ rest) = .ok (.integer n, rest) := by
  obtain ⟨least, greatest⟩ := range
  have fits : n.natAbs ≤ significandLimit := by
    unfold significandLimit
    omega
  rw [readNumber_toDigits _ _ fits ends]
  by_cases negative : n < 0
  · have inside : 0 < n.natAbs ∧ n.natAbs ≤ 0x8000000000000000 := by omega
    have value : -(n.natAbs : Int) = n := by omega
    simp only [signedInteger, negative, decide_true, Bool.not_true, Bool.false_eq_true, ↓reduceIte,
      inside, and_self, value]
  · have value : (n.natAbs : Int) = n := by omega
    simp only [signedInteger, negative, decide_false, Bool.not_false, ↓reduceIte, value]

end Sketchbook.Json
