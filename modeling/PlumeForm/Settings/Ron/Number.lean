import PlumeForm.Settings.Tree
import PlumeForm.Decimal.Reader
import PlumeForm.Text.Signed

/-!
# Numbers in RON

A whole number has an optional sign and digits, behind `0x`, `0o` or `0b` digits of another base,
with underscores wherever digits may go on. What is no whole number of 64 bits is read as a decimal
numeral, in which an underscore may not stand.
-/

namespace PlumeForm.SettingsTree.Ron

/-- A character of a decimal numeral. -/
def isNumeralChar (c : Char) : Bool :=
  c.isDigit || c == 'e' || c == 'E' || c == '.' || c == '+' || c == '-'

/-- A character of a whole number. -/
def isWholeChar (c : Char) : Bool :=
  Text.isDigitOf 16 c || c == '_'

/-- The decimal numeral at the front of a text, and what follows it. -/
def readNumeral? (cs : List Char) : Option (SettingsTree × List Char) :=
  let (numeral, rest) := cs.span isNumeralChar
  (Decimal.read? numeral).map fun x => (.real x, rest)

/-- The base that a text says, and its digits. -/
def splitBase : List Char → Nat × List Char
  | '0' :: 'x' :: cs => (16, cs)
  | '0' :: 'o' :: cs => (8, cs)
  | '0' :: 'b' :: cs => (2, cs)
  | cs => (10, cs)

/-- The whole number of digits: one of 64 bits, or a double when there is no sign and it has 64
bits without one. -/
def wholeOf? (base : Nat) (sign : Option Char) (digits : List Char) : Option SettingsTree :=
  match Text.signedOf? base (sign == some '-') digits with
  | some z => some (.integer z)
  | none =>
    let n := Text.valueIn base digits
    if sign.isNone ∧ digits ≠ [] ∧ digits.all (Text.isDigitOf base) ∧ n < 2 ^ 64 then
      some (.real (Float.ofNat n))
    else none

/-- The whole number at the front of a text behind its sign, and what follows it. -/
def readWhole? (sign : Option Char) (cs : List Char) : Option (SettingsTree × List Char) :=
  let (base, cs) := splitBase cs
  let (digits, rest) := cs.span isWholeChar
  if digits.head? = some '_' then none
  else (wholeOf? base sign (digits.filter (· ≠ '_'))).map fun v => (v, rest)

/-- The number at the front of a text, and what follows it. -/
def readNumber? (cs : List Char) : Option (SettingsTree × List Char) :=
  let sign := cs.head?.filter fun c => c = '+' || c = '-'
  let body := if sign.isSome then cs.drop 1 else cs
  if (body.takeWhile isWholeChar).length < (body.takeWhile isNumeralChar).length then
    readNumeral? cs
  else
    match readWhole? sign body with
    | some found => some found
    | none => readNumeral? cs

end PlumeForm.SettingsTree.Ron
