/-!
# Ranges of code points

A property of characters is given as a list of closed ranges of code points. Main statement:
`contains_iff` reads membership in such a list as membership in one of its ranges.
-/

namespace PlumeForm.Text

/-- A closed range of code points. -/
structure CodeRange where
  first : Nat
  last : Nat
deriving DecidableEq, Repr

namespace CodeRange

/-- The range holds the code point of the character. -/
def holds (r : CodeRange) (c : Char) : Bool :=
  r.first ≤ c.toNat && c.toNat ≤ r.last

/-- One of the ranges holds the character. -/
def contains (ranges : List CodeRange) (c : Char) : Bool :=
  ranges.any (·.holds c)

theorem contains_iff {ranges : List CodeRange} {c : Char} :
    contains ranges c = true ↔ ∃ r ∈ ranges, r.first ≤ c.toNat ∧ c.toNat ≤ r.last := by
  simp [contains, holds]

/-- The ranges written as pairs of a first and a last code point. -/
def ofPairs (pairs : List (Nat × Nat)) : List CodeRange :=
  pairs.map fun p => ⟨p.1, p.2⟩

end CodeRange

end PlumeForm.Text
