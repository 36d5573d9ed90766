/-!
TOML values and documents. A document is assembled from its statements; one that says a thing twice,
or that adds to a table that is complete, has no meaning.
-/
namespace Sketchbook.Toml

/-- How a table has come to be, which decides who may add to it. -/
inductive Origin where
  /-- Named by a header, or the table of a whole section. -/
  | header
  /-- Only passed on the way to a header's table. -/
  | implied
  /-- Passed by a dotted key. -/
  | dotted
  /-- Written between braces. -/
  | braces
  deriving DecidableEq, Repr

/-- A TOML value. The entries of a table stand in the order in which they came. -/
inductive Value where
  | text (value : String)
  | integer (value : Int)
  | float (value : Float)
  | boolean (value : Bool)
  /-- A date, a time or both, as it is written. -/
  | moment (value : String)
  | list (items : List Value)
  | table (origin : Origin) (entries : List (String × Value))
  /-- The tables of an array of tables, in order. -/
  | tables (elements : List (List (String × Value)))
  deriving Inhabited

/-- The entries of a table. -/
abbrev Entries := List (String × Value)

namespace Entries

def find? (es : Entries) (key : String) : Option Value := List.lookup key es

/-- Changes the value of a key in its place. -/
def replace (es : Entries) (key : String) (value : Value) : Entries :=
  es.map fun entry => if entry.1 = key then (key, value) else entry

def without (es : Entries) (key : String) : Entries := es.filter fun entry => entry.1 ≠ key

/-- Adds a value under a dotted key, given as the names before the last and the last. The tables on
the way must have come to be by dotted keys, or be passed only. -/
def addDotted (key : String) (value : Value) : List String → Entries → Option Entries
  | [], es => if (es.find? key).isSome then none else some (es ++ [(key, value)])
  | name :: path, es =>
    match es.find? name with
    | none => do
      let inner ← addDotted key value path []
      return es ++ [(name, .table .dotted inner)]
    | some (.table .dotted inner) => do
      let inner ← addDotted key value path inner
      return es.replace name (.table .dotted inner)
    | some (.table .implied inner) =>
      if path.isEmpty then none
      else do
        let inner ← addDotted key value path inner
        return es.replace name (.table .implied inner)
    | some (.tables elements) =>
      if path.isEmpty then none
      else
        match elements.getLast? with
        | none => none
        | some last => do
          let last ← addDotted key value path last
          return es.replace name (.tables (elements.dropLast ++ [last]))
    | some _ => none

/-- Changes the table that a header's names lead to; missing ones on the way come to be. Of an array
of tables the last is meant. -/
def descend (change : Entries → Option Entries) : List String → Entries → Option Entries
  | [], es => change es
  | name :: path, es =>
    match es.find? name with
    | none => do
      let inner ← descend change path []
      return es ++ [(name, .table .implied inner)]
    | some (.table origin inner) =>
      if origin = .braces then none
      else do
        let inner ← descend change path inner
        return es.replace name (.table origin inner)
    | some (.tables elements) =>
      match elements.getLast? with
      | none => none
      | some last => do
        let last ← descend change path last
        return es.replace name (.tables (elements.dropLast ++ [last]))
    | some _ => none

end Entries

/-- A key with its value; the key is given as the names before the last and the last. -/
structure Pair where
  path : List String
  key : String
  value : Value

/-- Adds pairs one after the other. -/
def Entries.addAll (es : Entries) (pairs : List Pair) : Option Entries :=
  pairs.foldlM (fun es pair => es.addDotted pair.key pair.value pair.path) es

/-- What a section of a document fills. -/
inductive Header where
  /-- The document itself. -/
  | document
  | table (path : List String) (key : String)
  /-- One more table of an array of tables. -/
  | element (path : List String) (key : String)

/-- A header and the pairs up to the next. -/
structure Section where
  header : Header
  pairs : List Pair

/-- Adds a section to a document. -/
def Entries.addSection (root : Entries) (s : Section) : Option Entries :=
  match s.header with
  | .document => root.addAll s.pairs
  | .table path key =>
    root.descend
      (fun es =>
        let fill (start rest : Entries) : Option Entries := do
          let body ← start.addAll s.pairs
          return rest ++ [(key, .table .header body)]
        match es.find? key with
        | none => fill [] es
        | some (.table .implied inner) => fill inner (es.without key)
        | some _ => none)
      path
  | .element path key =>
    root.descend
      (fun es => do
        let body ← Entries.addAll [] s.pairs
        match es.find? key with
        | none => return es ++ [(key, .tables [body])]
        | some (.tables elements) => return es.replace key (.tables (elements ++ [body]))
        | some _ => none)
      path

/-- The entries of a document with the given sections. -/
def assemble (sections : List Section) : Option Entries :=
  sections.foldlM Entries.addSection []

end Sketchbook.Toml
