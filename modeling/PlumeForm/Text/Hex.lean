import PlumeForm.Power

/-!
# Digits of other bases

The digits of a base of at most sixteen are 0 to 9 and the letters a to f in either case, as far as
the base goes.
-/

namespace PlumeForm.Text

/-- The value of a hexadecimal digit. -/
def hexValue? (c : Char) : Option Nat :=
  if c.isDigit then some (c.toNat - '0'.toNat)
  else if 'a' ≤ c ∧ c ≤ 'f' then some (c.toNat - 'a'.toNat + 10)
  else if 'A' ≤ c ∧ c ≤ 'F' then some (c.toNat - 'A'.toNat + 10)
  else none

/-- The digit belongs to a base of at most sixteen. -/
def isDigitOf (base : Nat) (c : Char) : Bool :=
  match hexValue? c with
  | some n => n < base
  | none => false

/-- The number that digits of a base denote. -/
def valueIn (base : Nat) (digits : List Char) : Nat :=
  digits.foldl (fun n c => n * base + (hexValue? c).getD 0) 0

/-- The character with the number that hexadecimal digits denote. -/
def hexChar? (digits : List Char) : Option Char :=
  if digits.all (isDigitOf 16) ∧ (valueIn 16 digits).isValidChar then
    some (Char.ofNat (valueIn 16 digits))
  else none

end PlumeForm.Text
