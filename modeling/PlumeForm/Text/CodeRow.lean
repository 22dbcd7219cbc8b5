/-!
# Texts for consecutive characters

A table that gives texts to characters is written in rows: a first code point, and the texts of it
and of the ones behind it, with bars between them. A character whose place in a row is empty has no
text.
-/

namespace PlumeForm.Text

/-- The texts of consecutive code points. -/
structure CodeRow where
  first : Nat
  texts : String
deriving Repr

/-- The texts of the characters from a code point on. -/
structure CodeTexts where
  first : Nat
  texts : Array (List Char)
deriving Repr

/-- A table of texts. -/
abbrev CodeTable := List CodeTexts

namespace CodeTexts

/-- The texts of a row. -/
def ofRow (row : CodeRow) : CodeTexts :=
  ⟨row.first, (row.texts.toList.splitOn '|').toArray⟩

/-- The text of a character; an empty place holds none. -/
def find? (t : CodeTexts) (c : Char) : Option (List Char) :=
  if t.first ≤ c.toNat then t.texts[c.toNat - t.first]?.filter (· ≠ []) else none

/-- The characters that have a text, each with its text. -/
def entries (t : CodeTexts) : List (Char × List Char) :=
  (t.texts.toList.zipIdx.filter fun p => p.1 ≠ []).map fun p => (Char.ofNat (t.first + p.2), p.1)

end CodeTexts

namespace CodeTable

/-- The table that rows make. -/
def ofRows (rows : List CodeRow) : CodeTable :=
  rows.map CodeTexts.ofRow

/-- The text of a character. -/
def find? (table : CodeTable) (c : Char) : Option (List Char) :=
  table.findSome? (·.find? c)

/-- The characters that have a text, each with its text. -/
def entries (table : CodeTable) : List (Char × List Char) :=
  table.flatMap CodeTexts.entries

end CodeTable

end PlumeForm.Text
