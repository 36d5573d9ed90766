import Sketchbook.Proofs.Json.RoundTrip

/-!
Lists of texts as JSON text. Each is read back from its text, whatever its items are
(`readAll_texts`).
-/
namespace Sketchbook.Json

/-- An item that is a text is found behind the comma before it. -/
private theorem nextItem_text (first : Bool) (s : String) (rest : List Char) :
    nextItem first ((if first then [] else [',']) ++ (textChars s ++ rest)) =
      .ok (.entry (textChars s ++ rest)) := by
  cases first with
  | true => exact nextItem_first (.text s) rest
  | false => exact nextItem_comma (.text s) rest

/-- A text is read before the items that follow it. -/
private theorem readTexts_item (fuel : Nat) (first : Bool) (s : String) (rest : List Char) :
    readTexts (fuel + 1) first ((if first then [] else [',']) ++ (textChars s ++ rest)) =
      (readTexts fuel false rest).map fun (items, rest) => (s :: items, rest) := by
  simp only [readTexts, nextItem_text, bind, Except.bind, expectText_textChars]
  cases readTexts fuel false rest <;> rfl

private theorem readTexts_items (texts : List String) {fuel : Nat} (enough : texts.length < fuel) :
    readTexts fuel false (itemChars (texts.map .text)) = .ok (texts, []) := by
  induction texts generalizing fuel with
  | nil =>
    obtain ⟨fuel, rfl⟩ : ∃ more, fuel = more + 1 := ⟨fuel - 1, by omega⟩
    rfl
  | cons s rest ih =>
    rw [List.length_cons] at enough
    obtain ⟨fuel, rfl⟩ : ∃ more, fuel = more + 1 := ⟨fuel - 1, by omega⟩
    have read := readTexts_item fuel false s (itemChars (rest.map .text))
    rw [ih (by omega)] at read
    exact read

private theorem length_itemChars (texts : List String) :
    texts.length ≤ (itemChars (texts.map .text)).length := by
  induction texts with
  | nil => exact Nat.zero_le _
  | cons s rest ih =>
    simp only [List.map_cons, itemChars, List.length_cons, List.length_append]
    omega

private theorem expectTexts_chars (texts : List String) :
    expectTexts (chars (.list (texts.map .text))) = .ok (texts, []) := by
  cases texts with
  | nil => rfl
  | cons s rest =>
    have bracket : skipBlanks ('[' :: (textChars s ++ itemChars (rest.map .text))) =
        '[' :: (textChars s ++ itemChars (rest.map .text)) := rfl
    have enough : rest.length <
        2 * (textChars s ++ itemChars (rest.map .text)).length + 1 := by
      have items := length_itemChars rest
      rw [List.length_append]
      omega
    have read := readTexts_item
      (2 * (textChars s ++ itemChars (rest.map .text)).length + 1) true s (itemChars (rest.map .text))
    rw [readTexts_items rest enough] at read
    rw [List.map_cons, chars, chars, expectTexts, bracket]
    exact read

/-- A list of texts is read back from its text. -/
theorem readAll_texts (texts : List String) :
    readAll expectTexts (compact (.list (texts.map .text))) = .ok texts := by
  have read := expectTexts_chars texts
  unfold readAll compact
  rw [String.toList_ofList, read]
  rfl

end Sketchbook.Json
