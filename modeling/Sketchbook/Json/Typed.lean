import Sketchbook.Json.Reader
/-!
Reading JSON text of a wanted form. A value of another form is refused; its kind is told, and for
that a number, text or word is read to its end.
-/
namespace Sketchbook.Json

/-- The kind of a number. -/
def Found.ofNumber : JsonNumber → Found
  | .integer n => .integer n
  | .float x => .float x

/-- The failure for a value of an unwanted form. -/
def unwanted (expected : String) (cs : List Char) : Failure :=
  let after (found : Found) (rest : List Char) := Failure.before (.wrongType found expected) rest
  let told {α : Type} (found : α → Found) (r : Except Failure (α × List Char)) : Failure :=
    match r with
    | .ok (value, rest) => after (found value) rest
    | .error f => f
  match cs with
  | 'n' :: rest => told (fun _ => .null) ((readWord ['u', 'l', 'l'] rest).map ((), ·))
  | 't' :: rest => told (fun _ => .boolean true) ((readWord ['r', 'u', 'e'] rest).map ((), ·))
  | 'f' :: rest => told (fun _ => .boolean false) ((readWord ['a', 'l', 's', 'e'] rest).map ((), ·))
  | '-' :: rest => told Found.ofNumber (readNumber true rest)
  | '"' :: rest => told .text (readText rest)
  | '[' :: rest => after .list ('[' :: rest)
  | '\x7b' :: rest => after .object ('\x7b' :: rest)
  | [] => .before .endInValue []
  | c :: rest =>
    if isDigit c then told Found.ofNumber (readNumber false (c :: rest))
    else .next .expectedValue (c :: rest)

/-- Reads a text. -/
def expectText (cs : List Char) : Except Failure (String × List Char) :=
  match skipBlanks cs with
  | '"' :: rest => readText rest
  | rest => .error (unwanted "a string" rest)

/-- Reads the texts of a list that are left, and its closing bracket. -/
def readTexts : Nat → Bool → List Char → Except Failure (List String × List Char)
  | 0, _, cs => .error (.before .tooDeep cs)
  | fuel + 1, first, cs => do
    match ← nextItem first cs with
    | .close rest => .ok ([], rest)
    | .entry rest =>
      let (item, rest) ← expectText rest
      let (items, rest) ← readTexts fuel false rest
      .ok (item :: items, rest)

/-- Reads a list of texts. -/
def expectTexts (cs : List Char) : Except Failure (List String × List Char) :=
  match skipBlanks cs with
  | '[' :: rest => readTexts (stepsFor rest) true rest
  | rest => .error (unwanted "a sequence" rest)

/-- Reads the members of an object of texts that are left, and its closing brace. -/
def readTextMembers :
    Nat → Bool → List Char → Except Failure (List (String × String) × List Char)
  | 0, _, cs => .error (.before .tooDeep cs)
  | fuel + 1, first, cs => do
    match ← nextMember first cs with
    | .close rest => .ok ([], rest)
    | .entry (name, rest) =>
      let rest ← readColon rest
      let (value, rest) ← expectText rest
      let (members, rest) ← readTextMembers fuel false rest
      .ok ((name, value) :: members, rest)

/-- Reads an object of texts, as its members in the order of the text. -/
def expectTextMembers (cs : List Char) : Except Failure (List (String × String) × List Char) :=
  match skipBlanks cs with
  | '\x7b' :: rest => readTextMembers (stepsFor rest) true rest
  | rest => .error (unwanted "a map" rest)

end Sketchbook.Json
