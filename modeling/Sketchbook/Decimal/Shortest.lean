import Sketchbook.Decimal.Binary64
/-!
The shortest decimal that reads back as a given float: of all decimals inside the interval of reals
that round to the float, one with the fewest digits, and of those the nearest to the float.
-/
namespace Sketchbook.Decimal

/-- A positive fraction `value / unit` and the interval `low / unit` to `high / unit` of the reals
that round to it; its ends belong to it if `closed`. -/
structure Neighbourhood where
  value : Nat
  low : Nat
  high : Nat
  unit : Nat
  closed : Bool

/-- The neighbourhood of `mantissa · 2 ^ exponent`. Its ends lie half a unit in the last place
away, and only a quarter below a power of two, where the floats below are twice as dense. -/
def Neighbourhood.ofBinary (mantissa : Nat) (exponent : Int) : Neighbourhood :=
  let scale := Nat.pow 2 (exponent - 2).toNat
  let dense := mantissa = Binary64.leastNormal ∧ exponent ≠ Binary64.leastExponent
  { value := 4 * mantissa * scale
    low := (4 * mantissa - if dense then 1 else 2) * scale
    high := (4 * mantissa + 2) * scale
    unit := Nat.pow 2 (2 - exponent).toNat
    closed := mantissa % 2 = 0 }

/-- How many decimal digits a number has. -/
def digitCount (n : Nat) : Nat := (Nat.toDigits 10 n).length

/-- The greatest exponent of ten whose power is at most `numerator / denominator`. -/
def leadingExponent (numerator denominator : Nat) : Int :=
  if denominator ≤ numerator then digitCount (numerator / denominator) - 1
  else -(digitCount ((denominator + numerator - 1) / numerator - 1) : Nat)

/-- A decimal `digits · 10 ^ exponent`. -/
structure Digits where
  digits : Nat
  exponent : Int
  deriving DecidableEq, Repr

/-- The multiple of `10 ^ exponent` inside the neighbourhood that is nearest to its value, an even
one of two that are equally near. -/
def Neighbourhood.nearest? (n : Neighbourhood) (exponent : Int) : Option Nat :=
  let up := Nat.pow 10 (-exponent).toNat
  let step := n.unit * Nat.pow 10 exponent.toNat
  let target := n.value * up
  let inside (p : Nat) : Bool :=
    let x := p * step
    if n.closed then n.low * up ≤ x && x ≤ n.high * up else n.low * up < x && x < n.high * up
  let below := target / step
  let remainder := target % step
  let preferBelow := 2 * remainder < step ∨ (2 * remainder = step ∧ below % 2 = 0)
  match inside below, inside (below + 1) with
  | true, true => some (if preferBelow then below else below + 1)
  | true, false => some below
  | false, true => some (below + 1)
  | false, false => none

/-- Tries one digit more at a time; every float is told apart by seventeen. -/
def Neighbourhood.shortestFrom (n : Neighbourhood) (leading : Int) : Nat → Nat → Digits
  | count, 0 => ⟨n.value / n.unit, leading - count⟩
  | count, more + 1 =>
    let exponent := leading - count
    match n.nearest? exponent with
    | some digits =>
      if digits = Nat.pow 10 (count + 1) then ⟨1, leading + 1⟩ else ⟨digits, exponent⟩
    | none => n.shortestFrom leading (count + 1) more

/-- The shortest decimal for `mantissa · 2 ^ exponent`, which must not be zero. -/
def shortest (mantissa : Nat) (exponent : Int) : Digits :=
  let n := Neighbourhood.ofBinary mantissa exponent
  n.shortestFrom (leadingExponent n.value n.unit) 0 17

end Sketchbook.Decimal
