import Sketchbook.Json.Basic
import Sketchbook.Json.Error
/-!
The words, numbers and texts of JSON. Each reader takes the characters that are left and gives what
it read with the characters that are then left.
-/
namespace Sketchbook.Json

/-- Skips spaces, tabs and the two line ends. -/
def skipBlanks (cs : List Char) : List Char :=
  cs.dropWhile fun c => c == ' ' || c == '\n' || c == '\t' || c == '\r'

/-- Reads the rest of a word such as `null`. -/
def readWord : List Char → List Char → Except Failure (List Char)
  | [], rest => .ok rest
  | _ :: _, [] => .error (.before .endInValue [])
  | expected :: more, c :: rest =>
    if c = expected then readWord more rest else .error (.next .expectedWord (c :: rest))

/-! ### Numbers -/

/-- The value of a decimal digit. -/
def digit? (c : Char) : Option Nat :=
  if '0' ≤ c ∧ c ≤ '9' then some (c.toNat - '0'.toNat) else none

/-- Whether a character is a decimal digit. -/
def isDigit (c : Char) : Bool := (digit? c).isSome

/-- The most that the digits of a number may amount to; further digits only move the point. -/
def significandLimit : Nat := 0xFFFFFFFFFFFFFFFF

/-- Appends digits to a number as long as it stays within the limit. Gives the number, how many
digits it took, and the rest. -/
def gatherDigits (significand : Nat) : List Char → Nat × Nat × List Char
  | [] => (significand, 0, [])
  | c :: rest =>
    match digit? c with
    | none => (significand, 0, c :: rest)
    | some d =>
      if significand * 10 + d ≤ significandLimit then
        let (total, count, left) := gatherDigits (significand * 10 + d) rest
        (total, count + 1, left)
      else (significand, 0, c :: rest)

/-- A power of ten as a float. -/
def powerOfTen (n : Nat) : Float := Float.ofScientific 1 false n

/-- The greatest power of ten that is finite as a float. -/
def greatestPower : Nat := 308

/-- Divides by a power of ten, in steps of the greatest power. -/
def shrink (x : Float) (n : Nat) : Float :=
  if n ≤ greatestPower then x / powerOfTen n
  else if x == 0 then x
  else shrink (x / powerOfTen greatestPower) (n - greatestPower)
termination_by n
decreasing_by simp [greatestPower] at *; omega

/-- The float for `significand · 10 ^ exponent`, from one rounded multiplication or from rounded
divisions, or `none` if it is not finite. -/
def scale? (significand : Nat) (exponent : Int) : Option Float :=
  let x := Float.ofScientific significand false 0
  match exponent with
  | .ofNat n =>
    if n ≤ greatestPower then
      let y := x * powerOfTen n
      if y.isInf then none else some y
    else if significand = 0 then some x
    else none
  | .negSucc n => some (shrink x (n + 1))

/-- The most that the digits of an exponent may amount to. -/
def exponentLimit : Nat := 0x7FFFFFFF

/-- Appends digits to an exponent. Beyond the limit it fails for a number that would be too large
and gives `none` for one that is zero. -/
def readExponentDigits (tooLarge : Bool) (exponent : Nat) :
    List Char → Except Failure (Option Nat × List Char)
  | [] => .ok (some exponent, [])
  | c :: rest =>
    match digit? c with
    | none => .ok (some exponent, c :: rest)
    | some d =>
      if exponent * 10 + d ≤ exponentLimit then
        readExponentDigits tooLarge (exponent * 10 + d) rest
      else if tooLarge then .error (.before .numberOutOfRange rest)
      else .ok (none, rest.dropWhile isDigit)

/-- The float of the given sign. -/
def signedFloat (negative : Bool) (x : Float) : JsonNumber := .float (if negative then -x else x)

/-- The number `significand · 10 ^ exponent` with the rest. -/
def finishFloat (negative : Bool) (significand : Nat) (exponent : Int) (rest : List Char) :
    Except Failure (JsonNumber × List Char) :=
  match scale? significand exponent with
  | some x => .ok (signedFloat negative x, rest)
  | none => .error (.before .numberOutOfRange rest)

/-- Reads an exponent, whose letter has been read. -/
def readExponent (negative : Bool) (significand : Nat) (exponent : Int) (rest : List Char) :
    Except Failure (JsonNumber × List Char) := do
  let (down, rest) :=
    match rest with
    | '+' :: rest => (false, rest)
    | '-' :: rest => (true, rest)
    | rest => (false, rest)
  match rest with
  | [] => .error (.before .endInValue [])
  | c :: after =>
    match digit? c with
    | none => .error (.next .invalidNumber (c :: after))
    | some d =>
      let (shift, rest) ← readExponentDigits (significand ≠ 0 && !down) d after
      match shift with
      | none => .ok (signedFloat negative 0, rest)
      | some shift =>
        finishFloat negative significand (if down then exponent - shift else exponent + shift) rest

/-- Reads what may follow the digits of a number that is no integer any more. -/
def readScale (negative : Bool) (significand : Nat) (exponent : Int) (rest : List Char) :
    Except Failure (JsonNumber × List Char) :=
  match rest with
  | 'e' :: rest | 'E' :: rest => readExponent negative significand exponent rest
  | rest => finishFloat negative significand exponent rest

/-- Reads a fraction, whose point has been read. -/
def readFraction (negative : Bool) (significand : Nat) (exponent : Int) (rest : List Char) :
    Except Failure (JsonNumber × List Char) :=
  match rest with
  | [] => .error (.before .endInValue [])
  | c :: after =>
    if isDigit c then
      let (significand, count, left) := gatherDigits significand (c :: after)
      readScale negative significand (exponent - count) (left.dropWhile isDigit)
    else .error (.next .invalidNumber (c :: after))

/-- An integer of the given sign; minus zero and integers below the range become floats. -/
def signedInteger (negative : Bool) (n : Nat) : JsonNumber :=
  if !negative then .integer n
  else if 0 < n ∧ n ≤ 0x8000000000000000 then .integer (-n)
  else .float (-(Float.ofScientific n false 0))

/-- Reads what may follow the digits of an integer, of which `dropped` did not fit. -/
def readIntegerEnd (negative : Bool) (significand dropped : Nat) (rest : List Char) :
    Except Failure (JsonNumber × List Char) :=
  match rest with
  | '.' :: rest => readFraction negative significand dropped rest
  | 'e' :: rest | 'E' :: rest => readExponent negative significand dropped rest
  | rest =>
    if dropped = 0 then .ok (signedInteger negative significand, rest)
    else finishFloat negative significand dropped rest

/-- Reads a number, whose minus sign has been read. -/
def readNumber (negative : Bool) : List Char → Except Failure (JsonNumber × List Char)
  | [] => .error (.before .endInValue [])
  | '0' :: rest =>
    match rest with
    | c :: _ =>
      if isDigit c then .error (.next .invalidNumber rest) else readIntegerEnd negative 0 0 rest
    | [] => readIntegerEnd negative 0 0 []
  | c :: rest =>
    if isDigit c then
      let (significand, _, left) := gatherDigits 0 (c :: rest)
      let dropped := (left.takeWhile isDigit).length
      readIntegerEnd negative significand dropped (left.drop dropped)
    else .error (.next .invalidNumber (c :: rest))

/-! ### Texts -/

/-- The value of a hexadecimal digit of either case. -/
def hexDigit? (c : Char) : Option Nat :=
  if '0' ≤ c ∧ c ≤ '9' then some (c.toNat - '0'.toNat)
  else if 'a' ≤ c ∧ c ≤ 'f' then some (c.toNat - 'a'.toNat + 10)
  else if 'A' ≤ c ∧ c ≤ 'F' then some (c.toNat - 'A'.toNat + 10)
  else none

/-- The number that four hexadecimal digits spell. -/
def hexNumber? (a b c d : Char) : Option Nat := do
  pure ((← hexDigit? a) * 4096 + (← hexDigit? b) * 256 + (← hexDigit? c) * 16 + (← hexDigit? d))

/-- The failure of an escape that should go on with four hexadecimal digits: four bytes are taken
for them if there are as many. -/
def badHexEscape (rest : List Char) : Failure :=
  if 4 ≤ Text.byteSize rest then ⟨.invalidEscape, some (rest, 4)⟩ else .before .endInText []

/-- The character for a letter after a backslash. -/
def escapedChar? : Char → Option Char
  | '"' => some '"'
  | '\\' => some '\\'
  | '/' => some '/'
  | 'b' => some '\x08'
  | 'f' => some '\x0c'
  | 'n' => some '\n'
  | 'r' => some '\r'
  | 't' => some '\t'
  | _ => none

/-- Whether a code unit opens a surrogate pair. -/
def isLeading (n : Nat) : Bool := 0xD800 ≤ n && n ≤ 0xDBFF

/-- Whether a code unit closes a surrogate pair. -/
def isTrailing (n : Nat) : Bool := 0xDC00 ≤ n && n ≤ 0xDFFF

/-- The character that two code units of a surrogate pair stand for. -/
def surrogatePair (leading trailing : Nat) : Char :=
  Char.ofNat ((leading - 0xD800) * 0x400 + (trailing - 0xDC00) + 0x10000)

/-- Puts a character in front of a text that has been read. -/
def prepend (c : Char) (r : Except Failure (List Char × List Char)) :
    Except Failure (List Char × List Char) :=
  r.map fun (cs, rest) => (c :: cs, rest)

/-- Reads a text up to its closing quote; the opening one has been read. -/
def readTextChars : List Char → Except Failure (List Char × List Char)
  | [] => .error (.before .endInText [])
  | '"' :: rest => .ok ([], rest)
  | '\\' :: rest =>
    match rest with
    | [] => .error (.before .endInText [])
    | 'u' :: hex =>
      match hex with
      | a :: b :: c :: d :: rest =>
        match hexNumber? a b c d with
        | none => .error (badHexEscape hex)
        | some unit =>
          if isTrailing unit then .error (.before .loneSurrogate rest)
          else if !isLeading unit then prepend (Char.ofNat unit) (readTextChars rest)
          else
            match rest with
            | [] => .error (.before .endInText [])
            | '\\' :: [] => .error (.before .endInText [])
            | '\\' :: 'u' :: second =>
              match second with
              | e :: f :: g :: h :: rest =>
                match hexNumber? e f g h with
                | none => .error (badHexEscape second)
                | some trailing =>
                  if isTrailing trailing then
                    prepend (surrogatePair unit trailing) (readTextChars rest)
                  else .error (.before .loneSurrogate rest)
              | _ => .error (badHexEscape second)
            | '\\' :: other => .error (.next .unfinishedSurrogate other)
            | other => .error (.next .unfinishedSurrogate other)
      | _ => .error (badHexEscape hex)
    | c :: rest =>
      match escapedChar? c with
      | some e => prepend e (readTextChars rest)
      | none => .error (.next .invalidEscape (c :: rest))
  | c :: rest =>
    if c.toNat < 0x20 then .error (.next .controlCharacter (c :: rest))
    else prepend c (readTextChars rest)

/-- Reads a text, whose opening quote has been read. -/
def readText (cs : List Char) : Except Failure (String × List Char) :=
  (readTextChars cs).map fun (read, rest) => (String.ofList read, rest)

end Sketchbook.Json
