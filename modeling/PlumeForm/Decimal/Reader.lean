import PlumeForm.Text.Caseless

/-!
# Numbers in text

A number is an optional sign and either a decimal numeral or one of the words `inf`, `infinity` and
`nan` in any case. A numeral has digits, with at most one point among or beside them, and may go on
with `e`, an optional sign and digits. Nothing else may stand in the text, not even white space. A
numeral denotes the double nearest to it, ties to even; beyond the largest double that is infinity.
-/

namespace PlumeForm.Decimal

/-- A decimal numeral: the whole number of its digits and the power of ten it is multiplied by. -/
structure Numeral where
  digits : Nat
  exponent : Int
deriving DecidableEq, Repr

/-- The double nearest to a numeral. -/
def Numeral.toFloat (n : Numeral) : Float :=
  Float.ofScientific n.digits (n.exponent < 0) n.exponent.natAbs

/-- Positive infinity. -/
def infinity : Float := 1.0 / 0.0

/-- The value that is no number. -/
def notANumber : Float := 0.0 / 0.0

/-- A text after its sign, and whether that was a minus. -/
def splitSign : List Char → Bool × List Char
  | '-' :: rest => (true, rest)
  | '+' :: rest => (false, rest)
  | cs => (false, cs)

/-- The power of ten behind the digits of a numeral: nothing, or `e`, a sign and digits. -/
def readExponent? : List Char → Option Int
  | [] => some 0
  | e :: rest =>
    if e = 'e' ∨ e = 'E' then
      let (negative, digits) := splitSign rest
      if digits ≠ [] ∧ digits.all Char.isDigit then
        let n : Int := Nat.ofDigitChars 10 digits 0
        some (if negative then -n else n)
      else none
    else none

/-- The digits after the point, and what follows them. -/
def splitFraction : List Char → List Char × List Char
  | '.' :: rest => rest.span Char.isDigit
  | cs => ([], cs)

/-- A numeral without a sign. -/
def readNumeral? (cs : List Char) : Option Numeral :=
  let (whole, rest) := cs.span Char.isDigit
  let (fraction, rest) := splitFraction rest
  if whole ++ fraction = [] then none
  else
    (readExponent? rest).map fun e =>
      ⟨Nat.ofDigitChars 10 (whole ++ fraction) 0, e - fraction.length⟩

/-- The words for values that have no numeral. -/
def readWord? (cs : List Char) : Option Float :=
  let word := String.ofList (Text.lowerAscii cs)
  if word = "inf" ∨ word = "infinity" then some infinity
  else if word = "nan" then some notANumber
  else none

/-- A number without a sign. -/
def readMagnitude? (cs : List Char) : Option Float :=
  match readNumeral? cs with
  | some n => some n.toFloat
  | none => readWord? cs

/-- The double that a text denotes. -/
def read? (cs : List Char) : Option Float :=
  let (negative, rest) := splitSign cs
  (readMagnitude? rest).map fun x => if negative then -x else x

/-- The double that a text denotes, when it is finite. -/
def readFinite? (cs : List Char) : Option Float :=
  (read? cs).filter Float.isFinite

theorem readFinite?_eq_some_iff {cs : List Char} {x : Float} :
    readFinite? cs = some x ↔ read? cs = some x ∧ x.isFinite = true := by
  simp [readFinite?, Option.filter_eq_some_iff]

theorem read?_nil : read? [] = none := by decide

end PlumeForm.Decimal
