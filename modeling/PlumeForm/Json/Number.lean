import PlumeForm.Json.Basic

/-!
# Numbers of JSON text

A number has an optional minus sign, digits without a needless zero before them, and may have a
point with digits and a power of ten. Without point and power it is a whole number as long as it
fits into 64 bits, with a sign or without; minus zero and larger ones are doubles.

A double is read in one step: as many digits as fit into 64 bits make a whole number, and that is
multiplied or divided once by a power of ten. So up to 2^53 and 10^22 the double is the nearest one;
beyond that it may be a neighbour of it. A number that is too large for a double is no number.
-/

namespace PlumeForm.Json

/-- The largest whole number of 64 bits. -/
def wordMax : Nat := 2 ^ 64 - 1

/-- A number as it stands in the text. -/
structure NumberText where
  negative : Bool
  whole : List Char
  fraction : List Char
  exponent : Int
  /-- There is neither a point nor a power of ten. -/
  plain : Bool
deriving Repr

/-- A digit's value. -/
def digitValue (c : Char) : Nat := c.toNat - '0'.toNat

/-- The digits before the point: those that fit into 64 bits, and how many were left out. -/
def takeWhole (significand : Nat) : List Char → Nat × Nat
  | [] => (significand, 0)
  | d :: ds =>
    let next := significand * 10 + digitValue d
    if next ≤ wordMax then takeWhole next ds else (significand, ds.length + 1)

/-- The digits after the point: those that fit into 64 bits, and how many they are. -/
def takeFraction (significand taken : Nat) : List Char → Nat × Nat
  | [] => (significand, taken)
  | d :: ds =>
    let next := significand * 10 + digitValue d
    if next ≤ wordMax then takeFraction next (taken + 1) ds else (significand, taken)

/-- A power of ten, as a double. -/
def tenTo (k : Nat) : Float :=
  Float.ofScientific 1 false k

/-- A whole number times a power of ten, with one multiplication or as few divisions as powers up to
10^308 allow. -/
def scale? (significand : Nat) (exponent : Int) : Option Float :=
  let x := Float.ofNat significand
  if 308 < exponent then (if significand = 0 then some x else none)
  else if 0 ≤ exponent then
    let y := x * tenTo exponent.toNat
    if y.isInf then none else some y
  else if -308 ≤ exponent then some (x / tenTo exponent.natAbs)
  else if -616 ≤ exponent then some (x / tenTo 308 / tenTo (exponent.natAbs - 308))
  else some 0.0

/-- The double of a number's text, without its sign. -/
def NumberText.magnitude? (t : NumberText) : Option Float :=
  let (significand, dropped) := takeWhole 0 t.whole
  let (significand, taken) := takeFraction significand 0 t.fraction
  scale? significand (dropped - taken + t.exponent)

/-- The double of a number's text. -/
def NumberText.toFloat? (t : NumberText) : Option Float :=
  t.magnitude?.map fun x => if t.negative then -x else x

/-- The number of a number's text. -/
def NumberText.value? (t : NumberText) : Option JsonNumber :=
  let n := Nat.ofDigitChars 10 t.whole 0
  if t.plain && !t.negative && n ≤ wordMax then some (.integer n)
  else if t.plain && t.negative && 0 < n && n ≤ 2 ^ 63 then some (.integer (-n))
  else t.toFloat?.map .real

/-! ## Reading -/

/-- The fraction of a number and what follows; a point needs a digit behind it. -/
def readFraction? : List Char → Option (List Char × List Char)
  | '.' :: rest =>
    let (digits, rest) := rest.span Char.isDigit
    if digits = [] then none else some (digits, rest)
  | cs => some ([], cs)

/-- The digits of a power of ten, and what follows. -/
def readPower? (negative : Bool) (cs : List Char) : Option (Int × List Char) :=
  let (digits, rest) := cs.span Char.isDigit
  let n : Int := Nat.ofDigitChars 10 digits 0
  if digits = [] then none else some (if negative then -n else n, rest)

/-- The power of ten of a number and what follows; nothing there counts as zero. -/
def readExponent? : List Char → Option (Option Int × List Char)
  | c :: rest =>
    if c = 'e' ∨ c = 'E' then
      match rest with
      | '+' :: r => (readPower? false r).map fun p => (some p.1, p.2)
      | '-' :: r => (readPower? true r).map fun p => (some p.1, p.2)
      | r => (readPower? false r).map fun p => (some p.1, p.2)
    else some (none, c :: rest)
  | [] => some (none, [])

/-- The text of a number at the front of a text, and what follows it. -/
def readNumberText? (negative : Bool) (cs : List Char) : Option (NumberText × List Char) :=
  let (whole, rest) := cs.span Char.isDigit
  if whole = [] ∨ (whole.head? = some '0' ∧ 1 < whole.length) then none
  else
    match readFraction? rest with
    | none => none
    | some (fraction, rest) =>
      (readExponent? rest).map fun (exponent, rest) =>
        (⟨negative, whole, fraction, exponent.getD 0, fraction = [] && exponent.isNone⟩, rest)

/-- The number at the front of a text, and what follows it. -/
def readNumber? (cs : List Char) : Option (JsonNumber × List Char) :=
  let text :=
    match cs with
    | '-' :: rest => readNumberText? true rest
    | _ => readNumberText? false cs
  match text with
  | none => none
  | some (t, rest) => t.value?.map fun n => (n, rest)

end PlumeForm.Json
