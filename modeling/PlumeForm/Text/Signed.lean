import PlumeForm.Text.Hex

/-!
# Whole numbers with a sign in text

A whole number of 64 bits is read from an optional sign and at least one digit of a base.
-/

namespace PlumeForm.Text

/-- A number of 64 bits from its sign and the digits of a base. -/
def signedOf? (base : Nat) (negative : Bool) (digits : List Char) : Option Int :=
  let n := valueIn base digits
  if digits = [] ∨ !digits.all (isDigitOf base) then none
  else if negative then if n ≤ 2 ^ 63 then some (-n) else none
  else if n < 2 ^ 63 then some n
  else none

/-- The whole number of 64 bits that a text denotes in a base. -/
def readSigned? (base : Nat) : List Char → Option Int
  | '-' :: cs => signedOf? base true cs
  | '+' :: cs => signedOf? base false cs
  | cs => signedOf? base false cs

end PlumeForm.Text
