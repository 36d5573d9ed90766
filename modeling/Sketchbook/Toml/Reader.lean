import Sketchbook.Toml.Literal
/-!
Reading a TOML document. Nothing is told about why a text is refused.
-/
namespace Sketchbook.Toml

/-- Reads a number, a date or a time. -/
def scalar? (cs : List Char) : Option (Value × List Char) :=
  match moment? cs with
  | some (m, rest) => some (.moment m, rest)
  | none =>
    match float? cs with
    | some (x, rest) => some (.float x, rest)
    | none => (integer? cs).map fun (n, rest) => (.integer n, rest)

mutual

/-- Reads a value inside of which `levels` more lists and tables may be opened. -/
def value? : Nat → Nat → List Char → Option (Value × List Char)
  | 0, _, _ => none
  | fuel + 1, levels, cs =>
    match cs with
    | '"' :: _ | '\'' :: _ => (text? cs).map fun (s, rest) => (.text s, rest)
    | 't' :: 'r' :: 'u' :: 'e' :: rest => some (.boolean true, rest)
    | 'f' :: 'a' :: 'l' :: 's' :: 'e' :: rest => some (.boolean false, rest)
    | '[' :: rest =>
      match levels with
      | 0 => none
      | levels + 1 => (items? fuel levels rest).map fun (items, rest) => (.list items, rest)
    | '\x7b' :: rest =>
      match levels with
      | 0 => none
      | levels + 1 => do
        let (pairs, rest) ←
          match skipSpaces rest with
          | '\x7d' :: rest => some ([], rest)
          | rest => pairs? fuel levels rest
        return (.table .braces (← Entries.addAll [] pairs), rest)
    | cs => scalar? cs

/-- Reads the items of a list that are left, and its closing bracket. -/
def items? : Nat → Nat → List Char → Option (List Value × List Char)
  | 0, _, _ => none
  | fuel + 1, levels, cs => do
    match ← skipGaps cs.length cs with
    | ']' :: rest => return ([], rest)
    | rest =>
      let (item, rest) ← value? fuel levels rest
      match ← skipGaps rest.length rest with
      | ',' :: rest =>
        let (items, rest) ← items? fuel levels rest
        return (item :: items, rest)
      | ']' :: rest => return ([item], rest)
      | _ => none

/-- Reads the pairs of a table between braces that are left, and its closing brace. -/
def pairs? : Nat → Nat → List Char → Option (List Pair × List Char)
  | 0, _, _ => none
  | fuel + 1, levels, cs => do
    let (path, key, rest) ← key? cs
    let rest ← mark? '=' rest
    let (value, rest) ← value? fuel levels (skipSpaces rest)
    let pair : Pair := ⟨path, key, value⟩
    match skipSpaces rest with
    | ',' :: rest =>
      let (pairs, rest) ← pairs? fuel levels rest
      return (pair :: pairs, rest)
    | '\x7d' :: rest => return ([pair], rest)
    | _ => none

end

/-- Reads a pair and the end of its line. -/
def statement? (cs : List Char) : Option (Pair × List Char) := do
  let (path, key, rest) ← key? cs
  let rest ← mark? '=' rest
  let (value, rest) ← value? (2 * rest.length + 2) (nestingLimit - 1) (skipSpaces rest)
  return (⟨path, key, value⟩, ← lineRest? rest)

/-- Reads a header and the end of its line. -/
def header? : List Char → Option (Header × List Char)
  | '[' :: '[' :: rest => do
    let (path, key, rest) ← key? rest
    let rest ← mark? ']' (← mark? ']' rest)
    return (.element path key, ← lineRest? rest)
  | '[' :: rest => do
    let (path, key, rest) ← key? rest
    return (.table path key, ← lineRest? (← mark? ']' rest))
  | _ => none

/-- Reads the sections that are left, given the one that is open with its pairs in reverse. -/
def sections? : Nat → Section → List Char → Option (List Section)
  | 0, _, _ => none
  | fuel + 1, current, cs =>
    let closed : Section := { current with pairs := current.pairs.reverse }
    match skipSpaces cs with
    | [] => some [closed]
    | '#' :: rest => do sections? fuel current (← lineEnd? (rest.dropWhile isPlain))
    | '[' :: rest => do
      let (header, rest) ← header? ('[' :: rest)
      return closed :: (← sections? fuel ⟨header, []⟩ rest)
    | c :: rest =>
      match newline? (c :: rest) with
      | some rest => sections? fuel current rest
      | none => do
        let (pair, rest) ← statement? (c :: rest)
        sections? fuel { current with pairs := pair :: current.pairs } rest

/-- The entries of a TOML document. A mark of the byte order in front is skipped. -/
def read? (text : String) : Option Entries := do
  let cs :=
    match text.toList with
    | '\uFEFF' :: rest => rest
    | cs => cs
  assemble (← sections? (cs.length + 1) ⟨.document, []⟩ cs)

end Sketchbook.Toml
