import Sketchbook.Decimal.Shortest
/-!
Floats as text: which decimals are written in positional notation and which with an exponent.
-/
namespace Sketchbook.Decimal

/-- How a kind of text writes floats. -/
structure Style where
  /-- Whether a number whose first digit stands at this power of ten is written positionally. -/
  positional : Int → Bool
  nan : String
  infinity : String

/-- The digits of a positional number; at least one stands on each side of the point. -/
def Digits.positional (d : Digits) : List Char :=
  let digits := Nat.toDigits 10 d.digits
  match d.exponent with
  | .ofNat n => digits ++ List.replicate n '0' ++ ['.', '0']
  | .negSucc n =>
    let places := n + 1
    if digits.length ≤ places then
      ['0', '.'] ++ List.replicate (places - digits.length) '0' ++ digits
    else
      digits.take (digits.length - places) ++ '.' :: digits.drop (digits.length - places)

/-- The power of ten at which the first digit stands. -/
def Digits.leading (d : Digits) : Int :=
  d.exponent + (digitCount d.digits - 1 : Nat)

/-- One digit before the point, and an exponent that always has a sign. -/
def Digits.scientific (d : Digits) : List Char :=
  let mantissa :=
    match Nat.toDigits 10 d.digits with
    | [] => []
    | [digit] => [digit]
    | digit :: rest => digit :: '.' :: rest
  let exponent := d.leading
  mantissa ++ 'e' :: (if exponent < 0 then '-' else '+') :: Nat.toDigits 10 exponent.natAbs

/-- The text of a float in a style. -/
def Style.render (style : Style) (x : Float) : String :=
  let signed (negative : Bool) (cs : List Char) : String :=
    String.ofList (if negative then '-' :: cs else cs)
  match Binary64.ofFloat x with
  | .nan => style.nan
  | .infinite negative => signed negative style.infinity.toList
  | .finite negative 0 _ => signed negative ['0', '.', '0']
  | .finite negative mantissa exponent =>
    let d := shortest mantissa exponent
    signed negative (if style.positional d.leading then d.positional else d.scientific)

/-- Positional while the first digit stands between the fifth decimal place and the sixteenth place
before the point. -/
def compactStyle : Style where
  positional e := -5 ≤ e && e ≤ 15
  nan := "NaN"
  infinity := "inf"

/-- Positional throughout. -/
def plainStyle : Style where
  positional _ := true
  nan := "NaN"
  infinity := "inf"

end Sketchbook.Decimal
