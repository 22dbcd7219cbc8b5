import PlumeForm.Power

/-!
# The fewest digits that read back

A finite double other than zero is `m * 2^q` for whole numbers `m` and `q`. The numbers that round
to it form an interval around it, which holds its ends exactly when `m` is even. For one digit,
two digits and so on, the two neighbours of the double on that decimal grid are tried: the first
grid on which one of them lies in the interval gives the digits, the nearer one if both do, and of
two equally near ones the one that a `Tie` names. Seventeen digits are always enough.
-/

namespace PlumeForm.Decimal

/-- Which of two equally near decimals is written. -/
inductive Tie where
  /-- The one whose last digit is even. -/
  | even
  /-- The one farther from zero. -/
  | up
deriving DecidableEq, Repr

/-- The chosen one of a whole number and the next, both equally near. -/
def Tie.pick : Tie → Nat → Nat
  | .even, below => if below % 2 = 0 then below else below + 1
  | .up, below => below + 1

/-- A positive double: `significand * 2^exponent`, and whether the gap below it is half the gap
above it. -/
structure Binary where
  significand : Nat
  exponent : Int
  narrowBelow : Bool
deriving DecidableEq, Repr

/-- The magnitude of a double that is neither zero nor infinite nor a NaN, from its bits. -/
def Binary.ofBits? (bits : Nat) : Option Binary :=
  let field : Nat := bits / 2 ^ 52 % 2 ^ 11
  let fraction : Nat := bits % 2 ^ 52
  if field = 2047 then none
  else if field = 0 then
    if fraction = 0 then none else some ⟨fraction, -1074, false⟩
  else some ⟨2 ^ 52 + fraction, (field : Int) - 1075, fraction = 0 && 1 < field⟩

/-- The sign bit of a double is set. -/
def isNegative (x : Float) : Bool :=
  x.toBits.toNat / 2 ^ 63 % 2 = 1

/-- Four times the double's value, with the ends of the interval of numbers that round to it, over a
common denominator. -/
structure Interval where
  low : Nat
  value : Nat
  high : Nat
  den : Nat
  closed : Bool

namespace Interval

/-- The interval of numbers that round to a double. -/
def ofBinary (b : Binary) : Interval :=
  let scale := if b.exponent < 0 then 1 else 2 ^ b.exponent.toNat
  let den := if b.exponent < 0 then 2 ^ b.exponent.natAbs else 1
  let value := 4 * b.significand
  ⟨(if b.narrowBelow then value - 1 else value - 2) * scale, value * scale, (value + 2) * scale,
    4 * den, b.significand % 2 = 0⟩

/-- The number `c * 10^k` lies in the interval. -/
def holds (i : Interval) (c : Nat) (k : Int) : Bool :=
  let point := if k < 0 then c * i.den else c * i.den * 10 ^ k.toNat
  let stretch := if k < 0 then 10 ^ k.natAbs else 1
  if i.closed then i.low * stretch ≤ point && point ≤ i.high * stretch
  else i.low * stretch < point && point < i.high * stretch

/-- The largest whole number `c` with `c * 10^k` at most the value, and how the value compares with
the middle between `c * 10^k` and the next point of the grid. -/
def floorAt (i : Interval) (k : Int) : Nat × Ordering :=
  let num := if k < 0 then i.value * 10 ^ k.natAbs else i.value
  let den := if k < 0 then i.den else i.den * 10 ^ k.toNat
  (num / den, compare (2 * (num % den)) den)

/-- The power of ten of the value's leading digit. -/
def leading (i : Interval) : Int :=
  let shift : Nat := 400
  ((Nat.toDigits 10 (i.value * 10 ^ shift / i.den)).length : Int) - 1 - shift

/-- The point of the grid of `10^k` to write for the value, when one of its neighbours reads back.
-/
def pick? (i : Interval) (tie : Tie) (k : Int) : Option Nat :=
  let (below, middle) := i.floorAt k
  match i.holds below k, i.holds (below + 1) k with
  | true, true =>
    match middle with
    | .lt => some below
    | .gt => some (below + 1)
    | .eq => some (tie.pick below)
  | true, false => some below
  | false, true => some (below + 1)
  | false, false => none

/-- The first of the given numbers of digits with a point that reads back, and its grid. -/
def firstPick? (i : Interval) (tie : Tie) (leading : Int) : List Nat → Option (Nat × Int)
  | [] => none
  | n :: ns =>
    let k := leading - n
    match i.pick? tie k with
    | some c => some (c, k)
    | none => firstPick? i tie leading ns

end Interval

/-- The shortest decimal that reads back: its digits, and the power of ten of the first one. -/
structure Shortest where
  digits : List Char
  leading : Int
deriving DecidableEq, Repr

/-- The digits without the zeros at their end; the first digit stays. -/
def dropZeros : List Char → List Char
  | [] => []
  | d :: ds => d :: (ds.reverse.dropWhile (· == '0')).reverse

/-- The shortest decimal that rounds to a positive double. -/
def Shortest.ofBinary (tie : Tie) (b : Binary) : Shortest :=
  let i := Interval.ofBinary b
  let (c, k) := (i.firstPick? tie i.leading (List.range 17)).getD (0, 0)
  let digits := Nat.toDigits 10 c
  ⟨dropZeros digits, k + digits.length - 1⟩

end PlumeForm.Decimal
