/-!
Paths as they are written: names with slashes between them. A path is shown as it was given, so it
keeps its text; what it names is decided by a disk.
-/
namespace Sketchbook

/-- A path, absolute if it starts with a slash. -/
structure Path where
  text : String
  deriving DecidableEq, Repr, Inhabited

namespace Path

instance : ToString Path := ⟨Path.text⟩

def isAbsolute (p : Path) : Bool := p.text.toList.head? == some '/'

/-- Whether a path can only name a directory. -/
def endsInSlash (p : Path) : Bool := p.text.toList.getLast? == some '/'

/-- The path `other` seen from the directory `p`; one slash is put between them if there is none. -/
def join (p : Path) (other : String) : Path :=
  if (Path.mk other).isAbsolute || p.text.isEmpty then ⟨other⟩
  else if p.endsInSlash then ⟨p.text ++ other⟩
  else ⟨p.text ++ "/" ++ other⟩

/-- The stretches of characters between slashes. -/
def pieces : List Char → List (List Char)
  | [] => [[]]
  | '/' :: rest => [] :: pieces rest
  | c :: rest =>
    match pieces rest with
    | [] => [[c]]
    | piece :: more => (c :: piece) :: more

/-- The names along a path, from the outermost to the innermost. -/
def names (p : Path) : List String :=
  ((pieces p.text.toList).filter (· ≠ [])).map String.ofList

/-- Drops slashes, and dots that stand alone, from the end of a path; the characters are reversed.
The first character of the path stays. -/
def dropSlashes : List Char → List Char
  | '/' :: c :: rest => dropSlashes (c :: rest)
  | '.' :: '/' :: c :: rest => dropSlashes ('/' :: c :: rest)
  | ['.', '/'] => ['/']
  | cs => cs

/-- The path without its last name, if it has one. -/
def parent? (p : Path) : Option Path :=
  match dropSlashes p.text.toList.reverse with
  | [] => none
  | ['/'] => none
  | cs => some ⟨String.ofList (dropSlashes (cs.dropWhile (· ≠ '/'))).reverse⟩

/-- The path and the paths around it, from the innermost to the outermost. -/
def ancestors (p : Path) : List Path :=
  go (p.text.length + 1) p
where
  go : Nat → Path → List Path
    | 0, _ => []
    | more + 1, p =>
      match p.parent? with
      | none => [p]
      | some parent => p :: go more parent

/-- Splits the name of a file at its last dot. A name without a dot, or with its only dot in front,
has no ending. -/
def splitEnding (name : String) : String × Option String :=
  let reversed := name.toList.reverse
  match reversed.dropWhile (· ≠ '.') with
  | [] => (name, none)
  | ['.'] => (name, none)
  | _ :: stem =>
    (String.ofList stem.reverse, some (String.ofList (reversed.takeWhile (· ≠ '.')).reverse))

end Path

end Sketchbook
