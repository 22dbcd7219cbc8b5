import PlumeForm.Decimal.Shortest

/-!
# Whole numbers near a double

Rounding takes a finite double to the nearest whole number, and a half away from zero.
-/

namespace PlumeForm.Decimal

/-- The whole number nearest to `significand * 2^exponent`, a half going up. -/
def roundMagnitude (b : Binary) : Nat :=
  if b.exponent < 0 then
    (b.significand + 2 ^ (b.exponent.natAbs - 1)) / 2 ^ b.exponent.natAbs
  else b.significand * 2 ^ b.exponent.toNat

/-- The whole number nearest to a finite double, a half going away from zero. A double that is not
finite gives 0. -/
def roundHalfAway (x : Float) : Int :=
  match Binary.ofBits? x.toBits.toNat with
  | none => 0
  | some b => if isNegative x then -(roundMagnitude b) else roundMagnitude b

end PlumeForm.Decimal
