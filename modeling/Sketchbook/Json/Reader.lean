import Sketchbook.Json.Literal
/-!
Reading a JSON value from text. Reading goes from left to right and stops at the first fault. Lists
and objects may be open around each other at most 127 times.
-/
namespace Sketchbook.Json

/-- What comes next between the brackets of a list or an object. -/
inductive Next (α : Type) where
  /-- The closing bracket, which is read. -/
  | close (rest : List Char)
  /-- One more entry. -/
  | entry (entry : α)

/-- What comes next in a list; `first` before its first item. An item has not been read yet. -/
def nextItem (first : Bool) (cs : List Char) : Except Failure (Next (List Char)) :=
  match skipBlanks cs with
  | [] => .error (.before .endInList [])
  | ']' :: rest => .ok (.close rest)
  | c :: rest =>
    if first then .ok (.entry (c :: rest))
    else if c = ',' then
      match skipBlanks rest with
      | [] => .error (.before .endInValue [])
      | ']' :: rest => .error (.next .trailingComma (']' :: rest))
      | rest => .ok (.entry rest)
    else .error (.next .expectedCommaInList (c :: rest))

/-- The colon after a name. -/
def readColon (cs : List Char) : Except Failure (List Char) :=
  match skipBlanks cs with
  | [] => .error (.before .endInObject [])
  | ':' :: rest => .ok rest
  | rest => .error (.next .expectedColon rest)

/-- What comes next in an object; `first` before its first member. Of a member, the name has been
read and the colon has not. -/
def nextMember (first : Bool) (cs : List Char) : Except Failure (Next (String × List Char)) :=
  match skipBlanks cs with
  | [] => .error (.before .endInObject [])
  | '\x7d' :: rest => .ok (.close rest)
  | c :: rest =>
    if first then
      if c = '"' then (readText rest).map .entry
      else .error (.next .nameNotText (c :: rest))
    else if c = ',' then
      match skipBlanks rest with
      | [] => .error (.before .endInValue [])
      | '"' :: rest => (readText rest).map .entry
      | '\x7d' :: rest => .error (.next .trailingComma ('\x7d' :: rest))
      | rest => .error (.next .nameNotText rest)
    else .error (.next .expectedCommaInObject (c :: rest))

mutual

/-- Reads a value, around which `levels` more lists and objects may still be opened. -/
def readValue : Nat → Nat → List Char → Except Failure (Json × List Char)
  | 0, _, cs => .error (.before .tooDeep cs)
  | fuel + 1, levels, cs =>
    match skipBlanks cs with
    | [] => .error (.before .endInValue [])
    | 'n' :: rest => (readWord ['u', 'l', 'l'] rest).map (.null, ·)
    | 't' :: rest => (readWord ['r', 'u', 'e'] rest).map (.boolean true, ·)
    | 'f' :: rest => (readWord ['a', 'l', 's', 'e'] rest).map (.boolean false, ·)
    | '"' :: rest => (readText rest).map fun (s, rest) => (.text s, rest)
    | '[' :: rest =>
      match levels with
      | 0 => .error (.next .tooDeep ('[' :: rest))
      | levels + 1 =>
        (readItems fuel levels true rest).map fun (items, rest) => (.list items, rest)
    | '\x7b' :: rest =>
      match levels with
      | 0 => .error (.next .tooDeep ('\x7b' :: rest))
      | levels + 1 =>
        (readMembers fuel levels true rest).map fun (members, rest) => (ofMembers members, rest)
    | '-' :: rest => (readNumber true rest).map fun (n, rest) => (.ofNumber n, rest)
    | c :: rest =>
      if isDigit c then (readNumber false (c :: rest)).map fun (n, rest) => (.ofNumber n, rest)
      else .error (.next .expectedValue (c :: rest))

/-- Reads the items of a list that are left, and its closing bracket. -/
def readItems : Nat → Nat → Bool → List Char → Except Failure (List Json × List Char)
  | 0, _, _, cs => .error (.before .tooDeep cs)
  | fuel + 1, levels, first, cs => do
    match ← nextItem first cs with
    | .close rest => .ok ([], rest)
    | .entry rest =>
      let (item, rest) ← readValue fuel levels rest
      let (items, rest) ← readItems fuel levels false rest
      .ok (item :: items, rest)

/-- Reads the members of an object that are left, and its closing brace. -/
def readMembers :
    Nat → Nat → Bool → List Char → Except Failure (List (String × Json) × List Char)
  | 0, _, _, cs => .error (.before .tooDeep cs)
  | fuel + 1, levels, first, cs => do
    match ← nextMember first cs with
    | .close rest => .ok ([], rest)
    | .entry (name, rest) =>
      let rest ← readColon rest
      let (value, rest) ← readValue fuel levels rest
      let (members, rest) ← readMembers fuel levels false rest
      .ok ((name, value) :: members, rest)

end

/-- How many lists and objects may be open around each other. -/
def levelLimit : Nat := 127

/-- Steps that suffice for any text: between two characters at most two readers start. -/
def stepsFor (cs : List Char) : Nat := 2 * cs.length + 2

/-- Only blanks may follow a value. -/
def readEnd (cs : List Char) : Except Failure Unit :=
  match skipBlanks cs with
  | [] => .ok ()
  | rest => .error (.next .trailingCharacters rest)

/-- Runs a reader on a whole text. -/
def readAll {α : Type} (reader : List Char → Except Failure (α × List Char)) (text : String) :
    Except Error α :=
  let result := do
    let (value, rest) ← reader text.toList
    readEnd rest
    pure value
  result.mapError (·.toError text)

/-- The value of a JSON text. -/
def read (text : String) : Except Error Json :=
  readAll (fun cs => readValue (stepsFor cs) levelLimit cs) text

end Sketchbook.Json
