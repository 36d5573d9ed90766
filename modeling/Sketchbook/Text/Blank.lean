/-!
Blank characters, and text with its blank ends removed. Blank means the Unicode property
`White_Space`, which is wider than the class that `Char.isWhitespace` tests.
-/
namespace Sketchbook.Text

/-- Whether a character has the property `White_Space`. -/
def isBlank (c : Char) : Bool :=
  let n := c.toNat
  (0x09 ≤ n && n ≤ 0x0D) || n == 0x20 || n == 0x85 || n == 0xA0 || n == 0x1680 ||
    (0x2000 ≤ n && n ≤ 0x200A) || n == 0x2028 || n == 0x2029 || n == 0x202F || n == 0x205F ||
    n == 0x3000

/-- The characters between the first and the last that are not blank. -/
def trimChars (cs : List Char) : List Char :=
  ((cs.dropWhile isBlank).reverse.dropWhile isBlank).reverse

/-- The text between its first and its last character that are not blank. -/
def trim (s : String) : String :=
  String.ofList (trimChars s.toList)

end Sketchbook.Text
