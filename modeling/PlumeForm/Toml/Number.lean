import PlumeForm.Toml.Basic
import PlumeForm.Decimal.Reader
import PlumeForm.Text.Hex

/-!
# Numbers in TOML

Whole numbers are decimal with a sign, or hexadecimal, octal or binary without one, and have 64
bits with a sign. A double has a point with digits on both sides or a power of ten, or is `inf` or
`nan`. Single underscores may stand between digits, and no needless zero before a decimal number.
A double may not be too large, unless it is negative.
-/

namespace PlumeForm.Toml

/-- Digits without the underscores between them. -/
def ungroup? (isDigit : Char → Bool) (cs : List Char) : Option (List Char) :=
  let groups := cs.splitOn '_'
  if groups.all fun g => g ≠ [] && g.all isDigit then some groups.flatten else none

/-- The number that digits of a base denote, without a sign and below 2 to the 63rd. -/
def readInBase? (base : Nat) (cs : List Char) : Option Int :=
  match ungroup? (Text.isDigitOf base) cs with
  | some digits =>
    let n := Text.valueIn base digits
    if n < 2 ^ 63 then some n else none
  | none => none

/-- The digits of a decimal number without a needless zero. -/
def readWholeDigits? (cs : List Char) : Option (List Char) :=
  if cs.head? = some '0' ∧ 1 < cs.length then none else ungroup? Char.isDigit cs

/-- A sign and what follows it; no sign is plus. -/
def readSign : List Char → Bool × List Char
  | '-' :: cs => (true, cs)
  | '+' :: cs => (false, cs)
  | cs => (false, cs)

/-- The whole number of a text. -/
def readInteger? : List Char → Option Int
  | '0' :: 'x' :: cs => readInBase? 16 cs
  | '0' :: 'o' :: cs => readInBase? 8 cs
  | '0' :: 'b' :: cs => readInBase? 2 cs
  | cs =>
    let (negative, cs) := readSign cs
    match readWholeDigits? cs with
    | some digits =>
      let n := Nat.ofDigitChars 10 digits 0
      if negative then if n ≤ 2 ^ 63 then some (-n) else none
      else if n < 2 ^ 63 then some n
      else none
    | none => none

/-- The digits behind a point; there may be no point. -/
def readPoint? : List Char → Option (List Char)
  | [] => some []
  | '.' :: cs => (ungroup? Char.isDigit cs).map ('.' :: ·)
  | _ => none

/-- The digits of a power of ten; there may be none. -/
def readPower? : List Char → Option (List Char)
  | [] => some []
  | _ :: '-' :: cs => (ungroup? Char.isDigit cs).map fun ds => 'e' :: '-' :: ds
  | _ :: '+' :: cs => (ungroup? Char.isDigit cs).map ('e' :: ·)
  | _ :: cs => (ungroup? Char.isDigit cs).map ('e' :: ·)

/-- The decimal text of a double without its sign and underscores. -/
def plainDecimal? (cs : List Char) : Option (List Char) :=
  let (front, power) := cs.span fun c => c ≠ 'e' && c ≠ 'E'
  let (whole, point) := front.span (· ≠ '.')
  if point = [] ∧ power = [] then none
  else
    match readWholeDigits? whole, readPoint? point, readPower? power with
    | some whole, some point, some power => some (whole ++ point ++ power)
    | _, _, _ => none

/-- The double of a text. -/
def readReal? (cs : List Char) : Option Float :=
  let (negative, cs) := readSign cs
  let sign (x : Float) : Float := if negative then -x else x
  if cs = "inf".toList then some (sign (1.0 / 0.0))
  else if cs = "nan".toList then some (sign (0.0 / 0.0))
  else
    match (plainDecimal? cs).bind Decimal.read? with
    | some x => if x.isInf && !negative then none else some (sign x)
    | none => none

end PlumeForm.Toml
