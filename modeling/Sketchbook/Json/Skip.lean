import Sketchbook.Json.Reader
/-!
Skipping a JSON value that nobody asked for. Only its form is checked, and less strictly than by a
reader: brackets may be open to any depth, numbers may have any size and surrogates may be lone.
-/
namespace Sketchbook.Json

/-- Skips an exponent, whose letter has been read. -/
def skipExponent (rest : List Char) : Except Failure (List Char) :=
  let digits :=
    match rest with
    | '+' :: rest | '-' :: rest => rest
    | rest => rest
  match digits with
  | c :: more =>
    if isDigit c then .ok (more.dropWhile isDigit) else .error (.next .invalidNumber digits)
  | [] => .error (.next .invalidNumber [])

/-- Skips a fraction and an exponent, if there are any. -/
def skipNumberEnd (rest : List Char) : Except Failure (List Char) :=
  match rest with
  | '.' :: rest =>
    match rest with
    | c :: more =>
      if isDigit c then
        match more.dropWhile isDigit with
        | 'e' :: rest | 'E' :: rest => skipExponent rest
        | rest => .ok rest
      else .error (.next .invalidNumber rest)
    | [] => .error (.next .invalidNumber [])
  | 'e' :: rest | 'E' :: rest => skipExponent rest
  | rest => .ok rest

/-- Skips a number, whose minus sign has been read. -/
def skipNumber (cs : List Char) : Except Failure (List Char) :=
  match cs with
  | [] => .error (.next .invalidNumber [])
  | '0' :: rest =>
    match rest with
    | c :: _ => if isDigit c then .error (.next .invalidNumber rest) else skipNumberEnd rest
    | [] => .ok []
  | c :: rest =>
    if isDigit c then skipNumberEnd (rest.dropWhile isDigit)
    else .error (.next .invalidNumber (c :: rest))

/-- Skips a text up to its closing quote; the opening one has been read. -/
def skipText : List Char → Except Failure (List Char)
  | [] => .error (.before .endInText [])
  | '"' :: rest => .ok rest
  | '\\' :: rest =>
    match rest with
    | [] => .error (.before .endInText [])
    | 'u' :: hex =>
      match hex with
      | a :: b :: c :: d :: rest =>
        if (hexNumber? a b c d).isSome then skipText rest else .error (badHexEscape hex)
      | _ => .error (badHexEscape hex)
    | c :: rest =>
      if (escapedChar? c).isSome then skipText rest
      else .error (.next .invalidEscape (c :: rest))
  | c :: rest =>
    if c.toNat < 0x20 then .error (.before .controlCharacter (c :: rest)) else skipText rest

/-- An open bracket. -/
inductive Bracket where
  | list
  | object
  deriving DecidableEq

/-- The failure at the end of the text while a bracket is open. -/
def Bracket.unclosed : Bracket → Cause
  | .list => .endInList
  | .object => .endInObject

/-- The failure for anything else than a comma or the bracket's partner. -/
def Bracket.expectedComma : Bracket → Cause
  | .list => .expectedCommaInList
  | .object => .expectedCommaInObject

/-- The partner of an open bracket. -/
def Bracket.closing : Bracket → Char
  | .list => ']'
  | .object => '\x7d'

/-- Skips what stands before the value of an entry: nothing in a list, a name with its colon in an
object. -/
def Bracket.skipName (b : Bracket) (cs : List Char) : Except Failure (List Char) :=
  match b with
  | .list => .ok cs
  | .object =>
    match skipBlanks cs with
    | [] => .error (.before .endInObject [])
    | '"' :: rest => do readColon (← skipText rest)
    | rest => .error (.next .nameNotText rest)

mutual

/-- Skips a value and then all that the open brackets still hold. -/
def skipEntry : Nat → List Bracket → List Char → Except Failure (List Char)
  | 0, _, cs => .error (.before .tooDeep cs)
  | fuel + 1, opened, cs => do
    let finish (rest : List Char) : Except Failure (List Char) :=
      match opened with
      | [] => .ok rest
      | bracket :: outer => skipBetween fuel true bracket outer rest
    match skipBlanks cs with
    | [] => .error (.before .endInValue [])
    | 'n' :: rest => finish (← readWord ['u', 'l', 'l'] rest)
    | 't' :: rest => finish (← readWord ['r', 'u', 'e'] rest)
    | 'f' :: rest => finish (← readWord ['a', 'l', 's', 'e'] rest)
    | '-' :: rest => finish (← skipNumber rest)
    | '"' :: rest => finish (← skipText rest)
    | '[' :: rest => skipBetween fuel false .list opened rest
    | '\x7b' :: rest => skipBetween fuel false .object opened rest
    | c :: rest =>
      if isDigit c then finish (← skipNumber (c :: rest))
      else .error (.next .expectedValue (c :: rest))

/-- Skips what the innermost open bracket still holds, and then the same for the others. A comma is
wanted before the next entry if `comma`. -/
def skipBetween :
    Nat → Bool → Bracket → List Bracket → List Char → Except Failure (List Char)
  | 0, _, _, _, cs => .error (.before .tooDeep cs)
  | fuel + 1, comma, bracket, outer, cs => do
    match skipBlanks cs with
    | [] => .error (.before bracket.unclosed [])
    | c :: rest =>
      if c = ',' ∧ comma then
        skipEntry fuel (bracket :: outer) (← bracket.skipName rest)
      else if c = bracket.closing then
        match outer with
        | [] => .ok rest
        | bracket :: outer => skipBetween fuel true bracket outer rest
      else if comma then .error (.next bracket.expectedComma (c :: rest))
      else skipEntry fuel (bracket :: outer) (← bracket.skipName (c :: rest))

end

/-- Skips a value. -/
def skipValue (cs : List Char) : Except Failure (List Char) :=
  skipEntry (stepsFor cs) [] cs

end Sketchbook.Json
