import Sketchbook.Decimal.Notation
import Sketchbook.Json.Basic
/-!
JSON text. `compact` writes a value without any blank; `indented` writes an object of texts with one
member on a line.
-/
namespace Sketchbook.Json

/-- A character of a text: only the quote, the backslash and the controls of ASCII are escaped. -/
def escapeChar (c : Char) : List Char :=
  if c = '"' then ['\\', '"']
  else if c = '\\' then ['\\', '\\']
  else if c = '\x08' then ['\\', 'b']
  else if c = '\t' then ['\\', 't']
  else if c = '\n' then ['\\', 'n']
  else if c = '\x0c' then ['\\', 'f']
  else if c = '\r' then ['\\', 'r']
  else if c.toNat < 0x20 then
    ['\\', 'u', '0', '0', Nat.digitChar (c.toNat / 16), Nat.digitChar (c.toNat % 16)]
  else [c]

/-- A text between quotes. -/
def textChars (s : String) : List Char :=
  '"' :: s.toList.flatMap escapeChar ++ ['"']

/-- The decimal digits of an integer, after a minus sign if it is negative. -/
def integerChars (n : Int) : List Char :=
  if n < 0 then '-' :: Nat.toDigits 10 n.natAbs else Nat.toDigits 10 n.natAbs

/-- The text of a number. -/
def numberChars : JsonNumber → List Char
  | .integer n => integerChars n
  | .float x => (Decimal.compactStyle.render x).toList

mutual

/-- The characters of a value, without blanks. -/
def chars : Json → List Char
  | .null => ['n', 'u', 'l', 'l']
  | .boolean true => ['t', 'r', 'u', 'e']
  | .boolean false => ['f', 'a', 'l', 's', 'e']
  | .number n => numberChars n
  | .text s => textChars s
  | .list [] => ['[', ']']
  | .list (item :: rest) => '[' :: (chars item ++ itemChars rest)
  | .object [] => ['\x7b', '\x7d']
  | .object ((name, value) :: rest) =>
    '\x7b' :: (textChars name ++ ':' :: (chars value ++ memberChars rest))

/-- The further items of a list, each after a comma, and its closing bracket. -/
def itemChars : List Json → List Char
  | [] => [']']
  | item :: rest => ',' :: (chars item ++ itemChars rest)

/-- The further members of an object, each after a comma, and its closing brace. -/
def memberChars : List (String × Json) → List Char
  | [] => ['\x7d']
  | (name, value) :: rest => ',' :: (textChars name ++ ':' :: (chars value ++ memberChars rest))

end

/-- The text of a value without blanks. -/
def compact (j : Json) : String := String.ofList j.chars

/-- The lines of an object of texts: two blanks before each member and one after its colon. -/
def indentedChars : List (String × String) → List Char
  | [] => ['\x7b', '\x7d']
  | entries =>
    let lines := entries.map fun (name, value) =>
      '\n' :: ' ' :: ' ' :: (textChars name ++ ':' :: ' ' :: textChars value)
    '\x7b' :: (List.intercalate [','] lines ++ ['\n', '\x7d'])

/-- An object of texts with one member on a line. -/
def indented (entries : List (String × String)) : String := String.ofList (indentedChars entries)

end Sketchbook.Json
