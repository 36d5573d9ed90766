/-!
What a double-precision float stands for: a sign and a natural number times a power of two, or one
of the special values.
-/
namespace Sketchbook.Decimal

/-- The value of a double-precision float. -/
inductive Binary64 where
  | nan
  | infinite (negative : Bool)
  /-- The number `mantissa · 2 ^ exponent`, negated if `negative`. -/
  | finite (negative : Bool) (mantissa : Nat) (exponent : Int)
  deriving DecidableEq, Repr

/-- The least exponent, which zero and all subnormal numbers have. -/
def Binary64.leastExponent : Int := -1074

/-- The least mantissa of a normal number: a one before fifty-two bits. -/
def Binary64.leastNormal : Nat := 0x10000000000000

/-- The exponent bits of infinities and of what is not a number. -/
def Binary64.specialExponent : Nat := 0x7FF

/-- Reads the sign bit, the eleven bits of the exponent and the fifty-two bits of the fraction. -/
def Binary64.ofFloat (x : Float) : Binary64 :=
  let bits := x.toBits.toNat
  let negative := decide (0x8000000000000000 ≤ bits)
  let exponent := bits / leastNormal % (specialExponent + 1)
  let fraction := bits % leastNormal
  if exponent = specialExponent then
    if fraction = 0 then .infinite negative else .nan
  else if exponent = 0 then .finite negative fraction leastExponent
  else .finite negative (leastNormal + fraction) (leastExponent + (exponent - 1 : Nat))

end Sketchbook.Decimal
