import PlumeForm.Decimal.Shortest

/-!
# Numbers as text

A finite number is written with the fewest digits that read back, either in places (`0.00001`,
`100`) or with a power of ten (`1e-7`). A `Layout` says which, whether a whole number gets a `.0`,
and which of two equally near digits is the last one.
-/

namespace PlumeForm.Decimal

/-- How the digits of a number are laid out. -/
structure Layout where
  /-- Write the number in places, given the power of ten of its leading digit. -/
  inPlaces : Int → Bool
  /-- Write `.0` behind a whole number in places. -/
  wholePoint : Bool
  /-- Which of two equally near decimals is written. -/
  tie : Tie

/-- Form fields show every number in places, a whole number without a point, and of two equally near
decimals the one farther from zero. -/
def fieldLayout : Layout := ⟨fun _ => true, false, .up⟩

/-- Transcripts show numbers from 0.00001 up to below 10^16 in places, with a point, and all others
with a power of ten; of two equally near decimals the one whose last digit is even. -/
def transcriptLayout : Layout := ⟨fun leading => -5 ≤ leading && leading < 16, true, .even⟩

/-- The digits in places. -/
def Layout.places (layout : Layout) (s : Shortest) : List Char :=
  if s.leading < 0 then
    ['0', '.'] ++ List.replicate (s.leading.natAbs - 1) '0' ++ s.digits
  else
    let whole := s.leading.toNat + 1
    if s.digits.length ≤ whole then
      s.digits ++ List.replicate (whole - s.digits.length) '0' ++
        (if layout.wholePoint then ['.', '0'] else [])
    else s.digits.take whole ++ '.' :: s.digits.drop whole

/-- The digits with a power of ten. -/
def Layout.scientific (s : Shortest) : List Char :=
  let mantissa :=
    match s.digits with
    | [] => []
    | [d] => [d]
    | d :: ds => d :: '.' :: ds
  mantissa ++ 'e' :: (if s.leading < 0 then '-' else '+') :: Nat.toDigits 10 s.leading.natAbs

/-- The digits in the layout's form. -/
def Layout.write (layout : Layout) (s : Shortest) : List Char :=
  if layout.inPlaces s.leading then layout.places s else Layout.scientific s

/-- A finite double as text. -/
def Layout.finite (layout : Layout) (x : Float) : List Char :=
  let magnitude :=
    match Binary.ofBits? x.toBits.toNat with
    | some b => Shortest.ofBinary layout.tie b
    | none => ⟨['0'], 0⟩
  (if isNegative x then ['-'] else []) ++ layout.write magnitude

/-- A double as form fields show it. -/
def fieldText (x : Float) : String :=
  if x.isNaN then "NaN"
  else if x.isInf then (if isNegative x then "-inf" else "inf")
  else String.ofList (fieldLayout.finite x)

/-- A finite double as transcripts show it. -/
def transcriptText (x : Float) : String :=
  String.ofList (transcriptLayout.finite x)

end PlumeForm.Decimal
