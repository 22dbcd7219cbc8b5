import PlumeForm.Json.Basic
import PlumeForm.Decimal.Reader
import PlumeForm.Text.Signed

/-!
# Numbers in JSON5

A number has an optional sign. It is a decimal numeral whose point may stand first or last, or
`Infinity` or `NaN`, which take no plus sign, or a hexadecimal number of 32 bits, which takes no
sign. Without a point and a power of ten it is a whole number of 64 bits; a double may not be too
large.
-/

namespace PlumeForm.Json5

/-- A numeral's text, split before what follows it. -/
structure Numeral where
  whole : List Char
  /-- The point and the digits behind it. -/
  point : List Char
  /-- The letter, the sign and the digits of a power of ten. -/
  power : List Char

/-- The point of a numeral with the digits behind it, and what follows. -/
def readPoint : List Char → List Char × List Char
  | '.' :: cs => ('.' :: (cs.span Char.isDigit).1, (cs.span Char.isDigit).2)
  | cs => ([], cs)

/-- The sign of a power of ten, and what follows. -/
def readPowerSign : List Char → List Char × List Char
  | '+' :: cs => (['+'], cs)
  | '-' :: cs => (['-'], cs)
  | cs => ([], cs)

/-- The power of ten of a numeral, and what follows; there may be none. -/
def readPower : List Char → List Char × List Char
  | [] => ([], [])
  | c :: cs =>
    let (sign, rest) := readPowerSign cs
    let (digits, rest) := rest.span Char.isDigit
    if (c = 'e' ∨ c = 'E') ∧ digits ≠ [] then (c :: sign ++ digits, rest) else ([], c :: cs)

/-- The numeral at the front of a text, and what follows it. Zero is the only one that begins with
a zero before its point. -/
def readNumeral? (cs : List Char) : Option (Numeral × List Char) :=
  let (whole, rest) := cs.span Char.isDigit
  let (point, rest) := readPoint rest
  let (power, rest) := readPower rest
  if whole.head? = some '0' ∧ 1 < whole.length then none
  else if whole = [] ∧ point.length ≤ 1 then none
  else some (⟨whole, point, power⟩, rest)

/-- The number of a numeral with its sign. -/
def Numeral.value? (n : Numeral) (negative : Bool) : Option JsonNumber :=
  if n.point = [] ∧ n.power = [] then (Text.signedOf? 10 negative n.whole).map .integer
  else
    (Decimal.readFinite? (n.whole ++ n.point ++ n.power)).map fun x =>
      .real (if negative then -x else x)

/-- The hexadecimal number at the front of a text, and what follows it. -/
def readHex? (cs : List Char) : Option (JsonNumber × List Char) :=
  let (digits, rest) := cs.span (Text.isDigitOf 16)
  let n := Text.valueIn 16 digits
  if digits = [] ∨ 2 ^ 32 ≤ n then none else some (.integer n, rest)

/-- The number without a sign at the front of a text, and what follows it. -/
def readMagnitude? (negative : Bool) (cs : List Char) : Option (JsonNumber × List Char) :=
  match readNumeral? cs with
  | none => none
  | some (numeral, rest) => (numeral.value? negative).map fun n => (n, rest)

/-- The double of a word. -/
def wordValue? (word : List Char) : Option Float :=
  if word = "Infinity".toList then some Decimal.infinity
  else if word = "NaN".toList then some Decimal.notANumber
  else none

/-- The number at the front of a text, and what follows it. -/
def readNumber? : List Char → Option (JsonNumber × List Char)
  | '0' :: 'x' :: cs => readHex? cs
  | '0' :: 'X' :: cs => readHex? cs
  | '+' :: cs => readMagnitude? false cs
  | '-' :: cs =>
    let (word, rest) := cs.span Char.isAlpha
    match wordValue? word with
    | some x => some (.real (-x), rest)
    | none => readMagnitude? true cs
  | cs => readMagnitude? false cs

end PlumeForm.Json5
