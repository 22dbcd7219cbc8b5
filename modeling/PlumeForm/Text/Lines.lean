/-!
# Lines

A line ends at a line feed, or at a carriage return with a line feed behind it; the end of the text
ends the last line, and a text that ends with a line feed has no empty line behind it. A carriage
return elsewhere belongs to its line.
-/

namespace PlumeForm.Text

/-- The line without the carriage return that stood before its line feed. -/
def dropReturn (line : List Char) : List Char :=
  if line.getLast? = some '\r' then line.dropLast else line

/-- The lines of a text, without what ends them; `line` holds what has been read of the current
one, last character first. -/
def linesFrom (line : List Char) : List Char → List (List Char)
  | [] => if line.isEmpty then [] else [line.reverse]
  | c :: rest =>
    if c = '\n' then dropReturn line.reverse :: linesFrom [] rest else linesFrom (c :: line) rest

/-- The lines of a text, without what ends them. -/
def lines (cs : List Char) : List (List Char) :=
  linesFrom [] cs

theorem lines_nil : lines [] = [] := rfl

theorem linesFrom_append {l : List Char} (h : '\n' ∉ l) (line rest : List Char) :
    linesFrom line (l ++ rest) = linesFrom (l.reverse ++ line) rest := by
  induction l generalizing line with
  | nil => rfl
  | cons c cs ih =>
    have hc : c ≠ '\n' := fun e => h (by simp [e])
    rw [List.cons_append, linesFrom, if_neg hc, ih (fun m => h (by simp [m]))]
    simp

/-- A text without a line feed, then a line feed, then more text: the first line is split off. -/
theorem lines_append {l : List Char} (h : '\n' ∉ l) (rest : List Char) :
    lines (l ++ '\n' :: rest) = dropReturn l :: lines rest := by
  rw [lines, linesFrom_append h, linesFrom]
  simp [lines]

end PlumeForm.Text
