import PlumeForm.Text.MarkClass
import PlumeForm.Text.Precomposed

/-!
# Composed texts

The same text can be written with precomposed characters or with letters and marks. A text is
composed by taking every character apart, putting marks that follow each other in the order of their
classes, and then joining each mark to the letter before it where both together are one character.
Syllables of Hangul are taken apart and put together by a rule.
-/

namespace PlumeForm.Text

/-! ## Two characters and one -/

/-- The precomposed characters with what they are made of. -/
def precomposedPairs : List (Char × List Char) :=
  precomposedTable.entries

/-- The two characters that a syllable of Hangul is made of. -/
def splitSyllable? (c : Char) : Option (Char × Char) :=
  if 0xAC00 ≤ c.toNat ∧ c.toNat < 0xD7A4 then
    let place := c.toNat - 0xAC00
    if place % 28 = 0 then
      some (Char.ofNat (0x1100 + place / 588), Char.ofNat (0x1161 + place % 588 / 28))
    else some (Char.ofNat (c.toNat - place % 28), Char.ofNat (0x11A7 + place % 28))
  else none

/-- The syllable of Hangul that two characters make up. -/
def joinSyllable? (a b : Char) : Option Char :=
  if 0x1100 ≤ a.toNat ∧ a.toNat < 0x1113 ∧ 0x1161 ≤ b.toNat ∧ b.toNat < 0x1176 then
    some (Char.ofNat (0xAC00 + ((a.toNat - 0x1100) * 21 + (b.toNat - 0x1161)) * 28))
  else if 0xAC00 ≤ a.toNat ∧ a.toNat < 0xD7A4 ∧ (a.toNat - 0xAC00) % 28 = 0 ∧
      0x11A8 ≤ b.toNat ∧ b.toNat < 0x11C3 then
    some (Char.ofNat (a.toNat + (b.toNat - 0x11A7)))
  else none

/-- The two characters that a character is made of. -/
def split? (c : Char) : Option (Char × Char) :=
  if c.toNat < 0xC0 then none
  else
    match splitSyllable? c with
    | some pair => some pair
    | none =>
      match precomposedTable.find? c with
      | some [a, b] => some (a, b)
      | _ => none

/-- The character that two characters make up. -/
def join? (a b : Char) : Option Char :=
  if b.toNat < 0x300 then none
  else
    match joinSyllable? a b with
    | some c => some c
    | none => (precomposedPairs.find? fun p => p.2 == [a, b]).map (·.1)

/-! ## Texts -/

/-- A character taken apart; what it is made of is taken apart again, so many times at most. -/
def takeApart : Nat → Char → List Char
  | 0, c => [c]
  | times + 1, c =>
    match split? c with
    | some (a, b) => takeApart times a ++ [b]
    | none => [c]

/-- No character holds another one deeper than this. -/
def depth : Nat := 3

/-- The marks with one more, put behind those of a lower class. -/
def place (c : Char) : List Char → List Char
  | [] => [c]
  | d :: ds =>
    if 0 < markClass d ∧ markClass d < markClass c then d :: place c ds else c :: d :: ds

/-- The text with the marks that follow each other in the order of their classes. -/
def order : List Char → List Char
  | [] => []
  | c :: cs => place c (order cs)

/-- A letter and the text behind it, with marks joined to it; `marks` are those that stay behind it,
the last one first. A mark is kept from the letter by one of no lower class. -/
def joinFrom (letter : Char) (marks : List Char) : List Char → List Char
  | [] => letter :: marks.reverse
  | c :: rest =>
    let near := marks.head?.all fun m => markClass m < markClass c
    match if near then join? letter c else none with
    | some joined => joinFrom joined marks rest
    | none =>
      if markClass c = 0 then letter :: marks.reverse ++ joinFrom c [] rest
      else joinFrom letter (c :: marks) rest

/-- The text with marks joined to letters; marks at its front have no letter. -/
def joinAll : List Char → List Char
  | [] => []
  | c :: rest => if markClass c = 0 then joinFrom c [] rest else c :: joinAll rest

/-- The text in composed form. -/
def compose (cs : List Char) : List Char :=
  joinAll (order (cs.flatMap (takeApart depth)))

end PlumeForm.Text
