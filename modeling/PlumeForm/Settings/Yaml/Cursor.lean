/-!
# Cursors in YAML

In YAML the place of a character matters as much as the character: a cursor knows its line and
column, and whether only white space stands before it on its line. It moves forward over characters
of a line (`pass`) or over a line end (`nextLine`).
-/

namespace PlumeForm.SettingsTree.Yaml

/-! ## Characters -/

/-- White space inside a line. -/
def isGap (c : Char) : Bool :=
  c == ' ' || c == '\t'

/-- The end of a line. -/
def isBreak (c : Char) : Bool :=
  c == '\n' || c == '\r'

/-- White space, or the end of a line or of the text. -/
def endsWord : Option Char → Bool
  | none => true
  | some c => isGap c || isBreak c

/-- The end of a line or of the text. -/
def endsLine : Option Char → Bool
  | none => true
  | some c => isBreak c

/-- A mark of the lists and tables between brackets and braces. -/
def isFlowMark (c : Char) : Bool :=
  c == ',' || c == '[' || c == ']' || c == '\x7b' || c == '\x7d'

/-- A text begins with three of the marks that stand between documents. -/
def beginsMarker (mark : Char) : List Char → Bool
  | a :: b :: c :: rest => a == mark && b == mark && c == mark && endsWord rest.head?
  | _ => false

/-! ## Cursors -/

/-- A place in a text. -/
structure Cursor where
  /-- What follows. -/
  rest : List Char
  /-- How many characters stand before it. -/
  index : Nat := 0
  line : Nat := 0
  column : Nat := 0
  /-- Only white space stands before it on its line. -/
  fresh : Bool := true

namespace Cursor

/-- The character that follows. -/
def next? (c : Cursor) : Option Char :=
  c.rest.head?

/-- The character behind the one that follows. -/
def second? (c : Cursor) : Option Char :=
  c.rest.tail.head?

/-- The next line begins with the mark between documents. -/
def atMarker (c : Cursor) : Bool :=
  c.column == 0 && (beginsMarker '-' c.rest || beginsMarker '.' c.rest)

/-- The cursor behind so many characters of its line. -/
def pass (n : Nat) (c : Cursor) : Cursor :=
  ⟨c.rest.drop n, c.index + n, c.line, c.column + n, c.fresh && (c.rest.take n).all isGap⟩

/-- The cursor behind the characters of its line that come before a later place in the text. -/
def passTo (rest : List Char) (c : Cursor) : Cursor :=
  c.pass (c.rest.length - rest.length)

/-- The cursor behind a line end; a carriage return and a line feed are one. -/
def nextLine (c : Cursor) : Cursor :=
  match c.rest with
  | '\r' :: '\n' :: rest => ⟨rest, c.index + 2, c.line + 1, 0, true⟩
  | _ :: rest => ⟨rest, c.index + 1, c.line + 1, 0, true⟩
  | [] => c

/-- The characters up to the first that does not belong to a class, and the cursor behind them. -/
def passWhile (p : Char → Bool) (c : Cursor) : List Char × Cursor :=
  (c.rest.takeWhile p, c.pass (c.rest.takeWhile p).length)

/-- The cursor at the end of its line. -/
def passLine (c : Cursor) : Cursor :=
  (c.passWhile fun x => !isBreak x).2

/-- The white space that follows on the line, and the cursor behind it and the comment behind that;
a comment needs white space before it. -/
def passGap? (c : Cursor) : Option (List Char × Cursor) :=
  let (gap, c) := c.passWhile isGap
  if c.next? = some '#' then if gap = [] then none else some (gap, c.passLine) else some (gap, c)

end Cursor

end PlumeForm.SettingsTree.Yaml
