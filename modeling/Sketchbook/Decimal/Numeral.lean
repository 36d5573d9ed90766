/-!
Decimal numerals: a sign, digits with or without a point, and an exponent. The float of a numeral is
the nearest one to its exact value.
-/
namespace Sketchbook.Decimal

/-- The number `digits · 10 ^ exponent`, negated if `negative`. -/
structure Numeral where
  negative : Bool
  digits : Nat
  exponent : Int
  deriving DecidableEq, Repr

namespace Numeral

/-- The number that digits spell. -/
def digitsValue (cs : List Char) : Nat :=
  cs.foldl (fun n c => n * 10 + (c.toNat - '0'.toNat)) 0

/-- Takes a sign off the front; a missing one is a plus. -/
def takeSign : List Char → Bool × List Char
  | '-' :: rest => (true, rest)
  | '+' :: rest => (false, rest)
  | cs => (false, cs)

/-- Reads digits, a fraction and an exponent. Digits must stand on one side of the point at least,
and in an exponent. -/
def ofChars? (cs : List Char) : Option Numeral :=
  let (negative, cs) := takeSign cs
  let whole := cs.takeWhile Char.isDigit
  let rest := cs.dropWhile Char.isDigit
  let (fraction, rest) :=
    match rest with
    | '.' :: rest => (rest.takeWhile Char.isDigit, rest.dropWhile Char.isDigit)
    | rest => ([], rest)
  let digits := digitsValue (whole ++ fraction)
  if whole.isEmpty && fraction.isEmpty then none
  else
    match rest with
    | [] => some ⟨negative, digits, -fraction.length⟩
    | e :: rest =>
      let (down, power) := takeSign rest
      if (e = 'e' ∨ e = 'E') ∧ power ≠ [] ∧ power.all Char.isDigit then
        let shift : Int := digitsValue power
        some ⟨negative, digits, (if down then -shift else shift) - fraction.length⟩
      else none

/-- Beyond this power of ten no float is finite, and below its inverse all are zero. -/
def powerLimit : Nat := 400

/-- The nearest float, with the sign of the numeral. -/
def toFloat (n : Numeral) : Float :=
  let size : Int := n.exponent + (Nat.toDigits 10 n.digits).length
  let x : Float :=
    if n.digits = 0 ∨ size < -powerLimit then 0
    else if (powerLimit : Int) < size then 1 / 0
    else Float.ofScientific n.digits (n.exponent < 0) n.exponent.natAbs
  if n.negative then -x else x

/-- The nearest float of single precision, with the sign of the numeral. -/
def toFloat32 (n : Numeral) : Float32 :=
  let size : Int := n.exponent + (Nat.toDigits 10 n.digits).length
  let x : Float32 :=
    if n.digits = 0 ∨ size < -powerLimit then 0
    else if (powerLimit : Int) < size then 1 / 0
    else Float32.ofScientific n.digits (n.exponent < 0) n.exponent.natAbs
  if n.negative then -x else x

end Numeral

end Sketchbook.Decimal
