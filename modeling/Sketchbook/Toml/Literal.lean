import Sketchbook.Decimal.Numeral
import Sketchbook.Json.Literal
import Sketchbook.Toml.Basic
/-!
The blanks, comments, keys, texts, numbers and dates of TOML. Each reader takes the characters that
are left and gives what it read with the characters that are then left, or nothing if they do not
start with what it reads.
-/
namespace Sketchbook.Toml

open Json (hexDigit?)

/-! ### Blanks and comments -/

/-- Skips spaces and tabs. -/
def skipSpaces (cs : List Char) : List Char := cs.dropWhile fun c => c == ' ' || c == '\t'

/-- A character that may stand in a comment: no control character but the tab. -/
def isPlain (c : Char) : Bool := c == '\t' || (0x20 ≤ c.toNat && c.toNat != 0x7F)

/-- Skips the end of a line. -/
def newline? : List Char → Option (List Char)
  | '\n' :: rest => some rest
  | '\r' :: '\n' :: rest => some rest
  | _ => none

/-- Skips the end of a line, or nothing at the end of the document. -/
def lineEnd? : List Char → Option (List Char)
  | [] => some []
  | cs => newline? cs

/-- Skips a comment, if there is one. -/
def skipComment : List Char → List Char
  | '#' :: rest => rest.dropWhile isPlain
  | cs => cs

/-- Skips what may follow a statement on its line. -/
def lineRest? (cs : List Char) : Option (List Char) := lineEnd? (skipComment (skipSpaces cs))

/-- Skips blanks, line ends and comments between the items of a list. -/
def skipGaps : Nat → List Char → Option (List Char)
  | 0, cs => some cs
  | fuel + 1, cs =>
    match skipSpaces cs with
    | '#' :: rest =>
      match newline? (rest.dropWhile isPlain) with
      | some rest => skipGaps fuel rest
      | none => none
    | '\n' :: rest => skipGaps fuel rest
    | '\r' :: rest =>
      match rest with
      | '\n' :: rest => skipGaps fuel rest
      | _ => none
    | rest => some rest

/-! ### Texts -/

/-- Reads a fixed number of hexadecimal digits. -/
def hexDigits? : Nat → Nat → List Char → Option (Nat × List Char)
  | 0, value, cs => some (value, cs)
  | _ + 1, _, [] => none
  | count + 1, value, c :: rest =>
    match hexDigit? c with
    | some d => hexDigits? count (value * 16 + d) rest
    | none => none

/-- The character of a code point, which must not be a surrogate. -/
def charOf? (n : Nat) : Option Char :=
  if h : n.isValidChar then some (Char.ofNatAux n h) else none

/-- Reads what follows a backslash. -/
def escape? : List Char → Option (Char × List Char)
  | 'b' :: rest => some ('\x08', rest)
  | 'f' :: rest => some ('\x0c', rest)
  | 'n' :: rest => some ('\n', rest)
  | 'r' :: rest => some ('\r', rest)
  | 't' :: rest => some ('\t', rest)
  | '\\' :: rest => some ('\\', rest)
  | '"' :: rest => some ('"', rest)
  | 'u' :: rest => do
    let (n, rest) ← hexDigits? 4 0 rest
    return (← charOf? n, rest)
  | 'U' :: rest => do
    let (n, rest) ← hexDigits? 8 0 rest
    return (← charOf? n, rest)
  | _ => none

/-- Puts a character in front of a text that has been read. -/
def prepend (c : Char) (r : Option (List Char × List Char)) : Option (List Char × List Char) :=
  r.map fun (cs, rest) => (c :: cs, rest)

/-- Reads a text in double quotes on one line, up to its closing quote. -/
def quotedChars : Nat → List Char → Option (List Char × List Char)
  | 0, _ => none
  | _ + 1, [] => none
  | _ + 1, '"' :: rest => some ([], rest)
  | fuel + 1, '\\' :: rest => do
    let (c, rest) ← escape? rest
    prepend c (quotedChars fuel rest)
  | fuel + 1, c :: rest => if isPlain c then prepend c (quotedChars fuel rest) else none

/-- Reads a text in single quotes on one line, up to its closing quote. Nothing is escaped. -/
def literalChars : List Char → Option (List Char × List Char)
  | [] => none
  | '\'' :: rest => some ([], rest)
  | c :: rest => if isPlain c then prepend c (literalChars rest) else none

/-- Closes a text in tripled quotes. Up to two more quotes in front of the closing ones belong to
the text; `none` if there are fewer than three. -/
def closeTripled? (quote : Char) (cs : List Char) : Option (List Char × List Char) :=
  let count := (cs.takeWhile (· == quote)).length
  if count < 3 then none
  else
    let extra := min count 5 - 3
    some (List.replicate extra quote, cs.drop (extra + 3))

/-- After a backslash at the end of a line: skips the line end and all blanks and line ends after
it. -/
def continueLine? (cs : List Char) : Option (List Char) :=
  (newline? (skipSpaces cs)).map fun rest => skip (rest.length + 1) rest
where
  skip : Nat → List Char → List Char
    | 0, cs => cs
    | fuel + 1, cs =>
      match skipSpaces cs with
      | '\n' :: rest => skip fuel rest
      | '\r' :: '\n' :: rest => skip fuel rest
      | rest => rest

/-- Reads a text in tripled double quotes, up to its closing quotes. -/
def quotedLines : Nat → List Char → Option (List Char × List Char)
  | 0, _ => none
  | _ + 1, [] => none
  | fuel + 1, '"' :: rest =>
    match closeTripled? '"' ('"' :: rest) with
    | some closed => some closed
    | none => prepend '"' (quotedLines fuel rest)
  | fuel + 1, '\\' :: rest =>
    match continueLine? rest with
    | some rest => quotedLines fuel rest
    | none => do
      let (c, rest) ← escape? rest
      prepend c (quotedLines fuel rest)
  | fuel + 1, c :: rest =>
    match newline? (c :: rest) with
    | some rest => prepend '\n' (quotedLines fuel rest)
    | none => if isPlain c then prepend c (quotedLines fuel rest) else none

/-- Reads a text in tripled single quotes, up to its closing quotes. -/
def literalLines : Nat → List Char → Option (List Char × List Char)
  | 0, _ => none
  | _ + 1, [] => none
  | fuel + 1, '\'' :: rest =>
    match closeTripled? '\'' ('\'' :: rest) with
    | some closed => some closed
    | none => prepend '\'' (literalLines fuel rest)
  | fuel + 1, c :: rest =>
    match newline? (c :: rest) with
    | some rest => prepend '\n' (literalLines fuel rest)
    | none => if isPlain c then prepend c (literalLines fuel rest) else none

/-- Skips the line end right after opening quotes. -/
def skipFirstNewline (cs : List Char) : List Char := (newline? cs).getD cs

/-- The text of characters that have been read. -/
def asText (r : Option (List Char × List Char)) : Option (String × List Char) :=
  r.map fun (cs, rest) => (String.ofList cs, rest)

/-- Reads a text on one line. -/
def lineText? : List Char → Option (String × List Char)
  | '"' :: rest => asText (quotedChars (rest.length + 1) rest)
  | '\'' :: rest => asText (literalChars rest)
  | _ => none

/-- Reads a text. -/
def text? : List Char → Option (String × List Char)
  | '"' :: '"' :: '"' :: rest =>
    let body := skipFirstNewline rest
    asText (quotedLines (body.length + 1) body)
  | '\'' :: '\'' :: '\'' :: rest =>
    let body := skipFirstNewline rest
    asText (literalLines (body.length + 1) body)
  | cs => lineText? cs

/-! ### Keys -/

/-- A character of a name without quotes. -/
def isBare (c : Char) : Bool := c.isAlphanum || c == '-' || c == '_'

/-- Reads one name of a key. -/
def name? (cs : List Char) : Option (String × List Char) :=
  match cs with
  | '"' :: _ | '\'' :: _ => lineText? cs
  | _ =>
    match cs.takeWhile isBare with
    | [] => none
    | name => some (String.ofList name, cs.dropWhile isBare)

/-- The most names of a key, and the most lists and tables around each other, is one less. -/
def nestingLimit : Nat := 80

/-- Reads the names of a key with the dots between them. -/
def names? : Nat → List Char → Option (List String × List Char)
  | 0, _ => none
  | fuel + 1, cs => do
    let (name, rest) ← name? (skipSpaces cs)
    match skipSpaces rest with
    | '.' :: rest =>
      let (more, rest) ← names? fuel rest
      return (name :: more, rest)
    | rest => return ([name], rest)

/-- Reads a key, as the names before the last and the last. -/
def key? (cs : List Char) : Option (List String × String × List Char) := do
  let (names, rest) ← names? (nestingLimit - 1) cs
  let last ← names.getLast?
  return (names.dropLast, last, rest)

/-! ### Numbers -/

/-- Reads digits with single underscores between them; the underscores are left out. -/
def digits? (isDigit : Char → Bool) : List Char → Option (List Char × List Char)
  | [] => none
  | c :: rest =>
    if isDigit c then
      match rest with
      | '_' :: more => prepend c (digits? isDigit more)
      | d :: more =>
        if isDigit d then prepend c (digits? isDigit (d :: more)) else some ([c], d :: more)
      | [] => some ([c], [])
    else none

/-- Reads a sign, if there is one. -/
def sign : List Char → List Char × List Char
  | '+' :: rest => (['+'], rest)
  | '-' :: rest => (['-'], rest)
  | cs => ([], cs)

/-- Reads a decimal integer with its sign. Only zero starts with a zero. -/
def decimal? (cs : List Char) : Option (List Char × List Char) :=
  let (sign, rest) := sign cs
  match rest with
  | '0' :: rest => some (sign ++ ['0'], rest)
  | rest => (digits? Char.isDigit rest).map fun (ds, rest) => (sign ++ ds, rest)

/-- Reads the exponent of a float. -/
def exponent? : List Char → Option (List Char × List Char)
  | c :: rest =>
    if c = 'e' ∨ c = 'E' then
      let (sign, rest) := sign rest
      (digits? Char.isDigit rest).map fun (ds, rest) => ('e' :: (sign ++ ds), rest)
    else none
  | [] => none

/-- Reads the characters of a float: an integer with a fraction, an exponent or both. -/
def floatChars? (cs : List Char) : Option (List Char × List Char) := do
  let (whole, rest) ← decimal? cs
  match rest with
  | '.' :: rest =>
    let (fraction, rest) ← digits? Char.isDigit rest
    match rest with
    | 'e' :: _ | 'E' :: _ =>
      let (power, rest) ← exponent? rest
      return (whole ++ '.' :: (fraction ++ power), rest)
    | rest => return (whole ++ '.' :: fraction, rest)
  | rest =>
    let (power, rest) ← exponent? rest
    return (whole ++ power, rest)

/-- Reads a float by its name. -/
def specialFloat? (cs : List Char) : Option (Float × List Char) :=
  let (sign, rest) := sign cs
  let signed (x : Float) : Float := if sign = ['-'] then -x else x
  match rest with
  | 'i' :: 'n' :: 'f' :: rest => some (signed (1 / 0), rest)
  | 'n' :: 'a' :: 'n' :: rest => some (signed (0 / 0), rest)
  | _ => none

/-- Reads a float. One that is too large is refused, but minus infinity is not. -/
def float? (cs : List Char) : Option (Float × List Char) :=
  match floatChars? cs with
  | some (chars, rest) => do
    let x := (← Decimal.Numeral.ofChars? chars).toFloat
    if x == 1 / 0 then none else return (x, rest)
  | none => specialFloat? cs

/-- Whether a character is a digit of a base that is a power of two up to sixteen. -/
def isDigitOf (base : Nat) (c : Char) : Bool :=
  match hexDigit? c with
  | some d => d < base
  | none => false

/-- The number that digits spell in a base. -/
def valueOf (base : Nat) (cs : List Char) : Nat :=
  cs.foldl (fun n c => n * base + (hexDigit? c).getD 0) 0

/-- An integer must fit into 64 bits with its sign. -/
def inRange? (n : Int) : Option Int := 
  if -0x8000000000000000 ≤ n ∧ n < 0x8000000000000000 then some n else none

/-- Reads an integer. -/
def integer? (cs : List Char) : Option (Int × List Char) :=
  let based (base : Nat) (cs : List Char) : Option (Int × List Char) := do
    let (ds, rest) ← digits? (isDigitOf base) cs
    return (← inRange? (valueOf base ds), rest)
  match cs with
  | '0' :: 'x' :: rest => based 16 rest
  | '0' :: 'o' :: rest => based 8 rest
  | '0' :: 'b' :: rest => based 2 rest
  | cs => do
    let (chars, rest) ← decimal? cs
    let (sign, ds) := sign chars
    let n : Int := valueOf 10 ds
    return (← inRange? (if sign = ['-'] then -n else n), rest)

/-! ### Dates and times -/

/-- Reads a number of a fixed count of digits within bounds. -/
def field? (count least greatest : Nat) (cs : List Char) : Option (Nat × List Char) :=
  let ds := cs.take count
  if ds.length = count ∧ ds.all Char.isDigit then
    let n := valueOf 10 ds
    if least ≤ n ∧ n ≤ greatest then some (n, cs.drop count) else none
  else none

/-- Skips one given character. -/
def mark? (mark : Char) : List Char → Option (List Char)
  | c :: rest => if c = mark then some rest else none
  | [] => none

/-- How many days a month has. -/
def daysIn (year month : Nat) : Nat :=
  if month = 2 then
    if year % 4 = 0 ∧ (year % 100 ≠ 0 ∨ year % 400 = 0) then 29 else 28
  else if month = 4 ∨ month = 6 ∨ month = 9 ∨ month = 11 then 30
  else 31

/-- Skips a date of the calendar. -/
def date? (cs : List Char) : Option (List Char) := do
  let (year, rest) ← field? 4 0 9999 cs
  let (month, rest) ← field? 2 1 12 (← mark? '-' rest)
  let (_, rest) ← field? 2 1 (daysIn year month) (← mark? '-' rest)
  return rest

/-- Skips a time of the day with its fraction of a second. -/
def time? (cs : List Char) : Option (List Char) := do
  let (_, rest) ← field? 2 0 23 cs
  let (_, rest) ← field? 2 0 59 (← mark? ':' rest)
  let (_, rest) ← field? 2 0 60 (← mark? ':' rest)
  match rest with
  | '.' :: more =>
    match more with
    | c :: _ => return if c.isDigit then more.dropWhile Char.isDigit else rest
    | [] => return rest
  | rest => return rest

/-- Skips an offset from universal time. -/
def offset? : List Char → Option (List Char)
  | [] => none
  | c :: rest =>
    if c = 'Z' ∨ c = 'z' then some rest
    else if c = '+' ∨ c = '-' then do
      let (_, rest) ← field? 2 0 23 rest
      let (_, rest) ← field? 2 0 59 (← mark? ':' rest)
      return rest
    else none

/-- Skips what may follow a date: a time, with or without an offset. -/
def afterDate (cs : List Char) : List Char :=
  match cs with
  | c :: rest =>
    if c = 'T' ∨ c = 't' ∨ c = ' ' then
      match time? rest with
      | some rest => (offset? rest).getD rest
      | none => cs
    else cs
  | [] => []

/-- Reads a date, a time or both. -/
def moment? (cs : List Char) : Option (String × List Char) :=
  let rest? :=
    match date? cs with
    | some rest => some (afterDate rest)
    | none => time? cs
  rest?.map fun rest => (String.ofList (cs.take (cs.length - rest.length)), rest)

end Sketchbook.Toml
