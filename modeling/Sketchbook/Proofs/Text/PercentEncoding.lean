import Mathlib.Data.List.Basic
import Sketchbook.Text.ByteSize
import Sketchbook.Text.PercentEncoding

/-!
Percent-encoded texts. They spell the bytes of a text by plain characters and by escapes
(`spells_percentEncode`), so they are ASCII without slashes and control characters
(`mem_percentEncode`); they have at most three characters for a byte (`utf8ByteSize_percentEncode`), and
each gives back the text that it stands for (`percentDecode?_percentEncode`).
-/
namespace Sketchbook.Text

/-- The characters that stand for themselves: the letters and digits of ASCII and four marks. -/
def isPlain (c : Char) : Bool := c.isAlphanum || c == '-' || c == '_' || c == '.' || c == '~'

/-- The hexadecimal digits of escapes, each at the place of its value. -/
def upperHex : List Char := "0123456789ABCDEF".toList

/-- Characters that spell bytes: a plain character stands for its own byte, and every other byte is spelled
by an escape. -/
inductive Spells : List Char → List UInt8 → Prop where
  | nil : Spells [] []
  | plain {c : Char} {cs : List Char} {bytes : List UInt8} (own : isPlain c = true)
      (more : Spells cs bytes) : Spells (c :: cs) (c.toUInt8 :: bytes)
  | escape {b : UInt8} {high low : Char} {cs : List Char} {bytes : List UInt8}
      (reserved : isPlain (Char.ofNat b.toNat) = false)
      (first : upperHex[b.toNat / 16]? = some high) (second : upperHex[b.toNat % 16]? = some low)
      (more : Spells cs bytes) : Spells ('%' :: high :: low :: cs) (b :: bytes)

/-- A byte is spelled by its escaped form. -/
private theorem spells_escapeByte (b : UInt8) {cs : List Char} {bytes : List UInt8}
    (more : Spells cs bytes) :
    Spells ((escapeByte b).map (fun b => Char.ofNat b.toNat) ++ cs) (b :: bytes) := by
  have every : ∀ n : Fin 256, let b := UInt8.ofNat n
      if isUnreserved b then isPlain (Char.ofNat b.toNat) = true ∧ (Char.ofNat b.toNat).toUInt8 = b
      else isPlain (Char.ofNat b.toNat) = false ∧
        upperHex[b.toNat / 16]? = some (Char.ofNat (hexDigit (b / 16)).toNat) ∧
        upperHex[b.toNat % 16]? = some (Char.ofNat (hexDigit (b % 16)).toNat) := by
    decide +kernel
  have known := every ⟨b.toNat, b.toNat_lt⟩
  simp only [UInt8.ofNat_toNat] at known
  unfold escapeByte
  split
  · next plain =>
    rw [if_pos plain] at known
    have spelled := Spells.plain known.1 more
    rw [known.2] at spelled
    exact spelled
  · next reserved =>
    rw [if_neg reserved] at known
    exact .escape known.1 known.2.1 known.2.2 more

/-- Encoded text spells the bytes of the text that it stands for. -/
theorem spells_percentEncode (s : String) :
    Spells (percentEncode s).toList s.toUTF8.data.toList := by
  rw [percentEncode, String.toList_ofList]
  generalize s.toUTF8.data.toList = bytes
  induction bytes with
  | nil => exact .nil
  | cons b rest ih =>
    rw [escape, List.flatMap_cons, List.map_append]
    exact spells_escapeByte b ih

/-- The characters of percent-encoded text. -/
def isEncoded (c : Char) : Bool := isUnreserved c.toUInt8 && c.toNat < 128 || c = '%'

/-- Whether a byte is the character of that number, and that can stand in encoded text. -/
def isEncodedByte (b : UInt8) : Bool := b.toNat < 128 && isEncoded (Char.ofNat b.toNat)

private theorem escapeByte_chars (b : UInt8) :
    (escapeByte b).all isEncodedByte = true ∧
      1 ≤ (escapeByte b).length ∧ (escapeByte b).length ≤ 3 := by
  have every : ∀ n : Fin 256, (escapeByte (UInt8.ofNat n)).all isEncodedByte = true ∧
      1 ≤ (escapeByte (UInt8.ofNat n)).length ∧ (escapeByte (UInt8.ofNat n)).length ≤ 3 := by
    decide +kernel
  simpa using every ⟨b.toNat, b.toNat_lt⟩

private theorem escape_ascii {bytes : List UInt8} {c : UInt8} (member : c ∈ escape bytes) :
    c.toNat < 128 ∧ isEncoded (Char.ofNat c.toNat) = true := by
  obtain ⟨b, _, inside⟩ := List.mem_flatMap.mp member
  have encoded := List.all_eq_true.mp (escapeByte_chars b).1 c inside
  simpa [isEncodedByte] using encoded

theorem mem_percentEncode {s : String} {c : Char} (member : c ∈ (percentEncode s).toList) :
    isEncoded c = true := by
  rw [percentEncode, String.toList_ofList] at member
  obtain ⟨b, inside, rfl⟩ := List.mem_map.mp member
  exact (escape_ascii inside).2

private theorem utf8EncodeChar_ascii {b : UInt8} (ascii : b.toNat < 128) :
    String.utf8EncodeChar (Char.ofNat b.toNat) = [b] := by
  have every : ∀ n : Fin 128, String.utf8EncodeChar (Char.ofNat n) = [UInt8.ofNat n] := by
    decide +kernel
  simpa using every ⟨b.toNat, ascii⟩

/-- The bytes of encoded text are the escaped bytes. -/
theorem bytes_percentEncode (s : String) :
    (percentEncode s).toUTF8.data.toList = escape s.toUTF8.data.toList := by
  have chars : ∀ bytes : List UInt8, (∀ b ∈ bytes, b.toNat < 128) →
      (bytes.map fun b => Char.ofNat b.toNat).flatMap String.utf8EncodeChar = bytes := by
    intro bytes ascii
    induction bytes with
    | nil => rfl
    | cons b rest ih =>
      rw [List.map_cons, List.flatMap_cons, utf8EncodeChar_ascii (ascii b List.mem_cons_self),
        ih fun c member => ascii c (List.mem_cons_of_mem _ member)]
      rfl
  rw [percentEncode, String.toUTF8_eq_toByteArray, String.toByteArray_ofList, List.utf8Encode,
    chars _ fun b member => (escape_ascii member).1]
  simp

/-- Decoding gives every text back. -/
theorem percentDecode?_percentEncode (s : String) : percentDecode? (percentEncode s) = some s := by
  have bytes : (⟨(unescape (percentEncode s).toUTF8.data.toList).toArray⟩ : ByteArray) = s.toUTF8 := by
    rw [bytes_percentEncode, unescape_escape]
  rw [percentDecode?, bytes, fromUTF8?_toUTF8]

/-- Texts with the same encoding are the same. -/
theorem percentEncode_injective : Function.Injective percentEncode := by
  intro a b same
  have decoded := percentDecode?_percentEncode a
  rw [same, percentDecode?_percentEncode b] at decoded
  exact (Option.some.inj decoded).symm

private theorem length_escape (bytes : List UInt8) :
    bytes.length ≤ (escape bytes).length ∧ (escape bytes).length ≤ 3 * bytes.length := by
  induction bytes with
  | nil => exact ⟨Nat.le_refl _, Nat.le_refl _⟩
  | cons b rest ih =>
    have sizes := (escapeByte_chars b).2
    have split : escape (b :: rest) = escapeByte b ++ escape rest := rfl
    rw [split, List.length_append, List.length_cons]
    omega

/-- A byte is encoded as one character or as three. -/
theorem utf8ByteSize_percentEncode (s : String) :
    s.utf8ByteSize ≤ (percentEncode s).utf8ByteSize ∧
      (percentEncode s).utf8ByteSize ≤ 3 * s.utf8ByteSize := by
  have size (t : String) : t.utf8ByteSize = t.toUTF8.data.toList.length := by
    rw [← String.size_toByteArray]
    rfl
  rw [size, size, bytes_percentEncode]
  exact length_escape _

end Sketchbook.Text
