/-!
Percent encoding: text as ASCII letters, digits, `-`, `_`, `.`, `~` and escapes `%XX` of the bytes
of its UTF-8 form, as it is used for names of files. Main statement: every text is read back from
its encoded bytes (`unescape_escape`).
-/
namespace Sketchbook.Text

/-- The bytes that stand for themselves: ASCII letters and digits, `-`, `.`, `_` and `~`. -/
def isUnreserved (b : UInt8) : Bool :=
  (0x30 ≤ b && b ≤ 0x39) || (0x41 ≤ b && b ≤ 0x5A) || (0x61 ≤ b && b ≤ 0x7A) ||
    b == 0x2D || b == 0x2E || b == 0x5F || b == 0x7E

/-- The upper-case hexadecimal digit of a number below sixteen, as an ASCII byte. -/
def hexDigit (n : UInt8) : UInt8 :=
  if n < 10 then 0x30 + n else 0x37 + n

/-- The value of a hexadecimal digit of either case. -/
def hexValue? (b : UInt8) : Option UInt8 :=
  if 0x30 ≤ b && b ≤ 0x39 then some (b - 0x30)
  else if 0x41 ≤ b && b ≤ 0x46 then some (b - 0x37)
  else if 0x61 ≤ b && b ≤ 0x66 then some (b - 0x57)
  else none

/-- A byte by itself if it is unreserved, else its escape. -/
def escapeByte (b : UInt8) : List UInt8 :=
  if isUnreserved b then [b] else [0x25, hexDigit (b / 16), hexDigit (b % 16)]

/-- Every byte in its escaped form. -/
def escape (bytes : List UInt8) : List UInt8 :=
  bytes.flatMap escapeByte

/-- The bytes that escapes stand for; a `%` that opens no escape stands for itself. -/
def unescape : List UInt8 → List UInt8
  | [] => []
  | 0x25 :: high :: low :: rest =>
    match hexValue? high, hexValue? low with
    | some h, some l => (h * 16 + l) :: unescape rest
    | _, _ => 0x25 :: unescape (high :: low :: rest)
  | b :: rest => b :: unescape rest

/-- The percent-encoded form of a text; its bytes are ASCII. -/
def percentEncode (s : String) : String :=
  String.ofList ((escape s.toUTF8.data.toList).map fun b => Char.ofNat b.toNat)

/-- The text that a percent-encoded form stands for, if its bytes are UTF-8. -/
def percentDecode? (s : String) : Option String :=
  String.fromUTF8? ⟨(unescape s.toUTF8.data.toList).toArray⟩

private theorem hexDigits_of_byte (b : UInt8) :
    hexValue? (hexDigit (b / 16)) = some (b / 16) ∧
      hexValue? (hexDigit (b % 16)) = some (b % 16) ∧ b / 16 * 16 + b % 16 = b := by
  have every : ∀ n : Fin 256,
      hexValue? (hexDigit (UInt8.ofNat n / 16)) = some (UInt8.ofNat n / 16) ∧
        hexValue? (hexDigit (UInt8.ofNat n % 16)) = some (UInt8.ofNat n % 16) ∧
        UInt8.ofNat n / 16 * 16 + UInt8.ofNat n % 16 = UInt8.ofNat n := by
    decide +kernel
  simpa using every ⟨b.toNat, b.toNat_lt⟩

private theorem unescape_escapeByte (b : UInt8) (rest : List UInt8) :
    unescape (escapeByte b ++ rest) = b :: unescape rest := by
  unfold escapeByte
  split
  · next h =>
    have hb : b ≠ 0x25 := by
      rintro rfl
      exact absurd h (by decide)
    simp [unescape, hb]
  · simp [unescape, hexDigits_of_byte b]

/-- Reading the escaped form gives the bytes back. -/
theorem unescape_escape (bytes : List UInt8) : unescape (escape bytes) = bytes := by
  induction bytes with
  | nil => rfl
  | cons b bytes ih =>
    rw [escape, List.flatMap_cons, unescape_escapeByte]
    exact congrArg _ ih

end Sketchbook.Text
