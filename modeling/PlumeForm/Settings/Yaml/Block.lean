import PlumeForm.Settings.Yaml.Cursor

/-!
# Block scalars of YAML

Behind `|` a scalar keeps its lines, behind `>` lines of the same depth are joined by spaces. A
digit in the header says how deep the lines are indented; else the first line with something on it
does. The line end behind the last line is kept, but not the empty lines after it; with `-` neither
is, with `+` both are.
-/

namespace PlumeForm.SettingsTree.Yaml

/-- What is kept of the line ends behind the last line. -/
inductive Chomping where
  | strip
  | clip
  | keep
deriving DecidableEq, Repr

/-- The header of a block scalar. -/
structure BlockHeader where
  chomping : Chomping := .clip
  /-- How much deeper than their surroundings the lines are indented, when the header says so. -/
  increment : Option Nat := none

/-- The chomping of a header, and what follows it. -/
def readChomping : List Char → Chomping × List Char
  | '+' :: rest => (.keep, rest)
  | '-' :: rest => (.strip, rest)
  | cs => (.clip, cs)

/-- The increment of a header, which is not zero, and what follows it. -/
def readIncrement? : List Char → Option (Option Nat × List Char)
  | [] => some (none, [])
  | c :: rest =>
    if c = '0' then none
    else if c.isDigit then some (some (c.toNat - '0'.toNat), rest)
    else some (none, c :: rest)

/-- The header at the front of a text, and what follows it; its parts may stand in either order. -/
def readHeader? (cs : List Char) : Option (BlockHeader × List Char) :=
  match readChomping cs with
  | (.clip, cs) =>
    (readIncrement? cs).map fun (increment, cs) =>
      if increment.isNone then ({}, cs)
      else
        let (chomping, cs) := readChomping cs
        (⟨chomping, increment⟩, cs)
  | (chomping, cs) => (readIncrement? cs).map fun (increment, cs) => (⟨chomping, increment⟩, cs)

/-! ## Indentation -/

/-- The cursor behind the spaces before a column. -/
def passSpaces (column : Nat) (c : Cursor) : Cursor :=
  c.pass ((c.rest.take (column - c.column)).takeWhile (· == ' ')).length

/-- How many empty lines follow, and the cursor behind them and the spaces before a column. -/
def passEmpty (column : Nat) : Nat → Nat → Cursor → Nat × Cursor
  | 0, count, c => (count, c)
  | room + 1, count, c =>
    let c := passSpaces column c
    if c.next?.any isBreak then passEmpty column room (count + 1) c.nextLine else (count, c)

/-- How many empty lines follow, the largest column to which spaces go there and on the line behind
them, and the cursor behind these spaces. -/
def passFirst : Nat → Nat → Nat → Cursor → Nat × Nat × Cursor
  | 0, count, deepest, c => (count, deepest, c)
  | room + 1, count, deepest, c =>
    let c := (c.passWhile (· == ' ')).2
    let deepest := max deepest c.column
    if c.next?.any isBreak then passFirst room (count + 1) deepest c.nextLine
    else (count, deepest, c)

/-! ## Lines -/

/-- A block scalar so far. -/
structure BlockText where
  /-- Its text, last character first. -/
  done : List Char := []
  /-- A line end stands behind the last line. -/
  ended : Bool := false
  /-- How many empty lines stand behind that. -/
  empty : Nat := 0
  /-- The last line begins with white space. -/
  deeper : Bool := false
  cursor : Cursor

/-- The text between the last line and a next one. -/
def BlockText.joint (t : BlockText) (fold deeper : Bool) : List Char :=
  if fold && t.ended && !t.deeper && !deeper then
    if t.empty = 0 then [' '] else List.replicate t.empty '\n'
  else List.replicate (t.empty + if t.ended then 1 else 0) '\n'

/-- The scalar with the lines that begin at a column, which are fewer than `room`. -/
def readBlockLines (fold : Bool) (column : Nat) : Nat → BlockText → BlockText
  | 0, t => t
  | room + 1, t =>
    if t.cursor.column ≠ column ∨ t.cursor.rest = [] ∨
        (column = 0 ∧ beginsMarker '.' t.cursor.rest) then t
    else
      let deeper := t.cursor.next?.any isGap
      let (line, c) := t.cursor.passWhile fun x => !isBreak x
      let done := line.reverse ++ t.joint fold deeper ++ t.done
      if c.rest = [] then ⟨done, false, 0, deeper, c⟩
      else
        let (empty, c) := passEmpty column (c.rest.length + 1) 0 c.nextLine
        readBlockLines fold column room ⟨done, true, empty, deeper, c⟩

/-- The text of a scalar with lines. A last line without a line end counts as one with it. -/
def BlockText.finish (t : BlockText) (chomping : Chomping) (column : Nat) : List Char :=
  let last := if t.ended then ['\n'] else []
  let missing := if t.cursor.rest = [] ∧ max column 1 ≤ t.cursor.column then ['\n'] else []
  match chomping with
  | .strip => t.done.reverse
  | .clip => t.done.reverse ++ last ++ missing
  | .keep => t.done.reverse ++ last ++ missing ++ List.replicate t.empty '\n'

/-- The text of a scalar without lines: so many empty lines stand behind the header's, which has an
end or not. -/
def emptyBlock (chomping : Chomping) (headerEnds : Bool) (empty : Nat) : List Char :=
  if !headerEnds then []
  else
    match chomping with
    | .strip => []
    | .clip => ['\n']
    | .keep => List.replicate (max empty 1) '\n'

/-- The text of the block scalar whose header begins at a cursor, inside surroundings of a depth,
and the cursor behind it. -/
def readBlock? (fold : Bool) (indent : Int) (c : Cursor) : Option (String × Cursor) :=
  match readHeader? c.rest with
  | none => none
  | some (header, rest) =>
    match (c.passTo rest).passGap? with
    | none => none
    | some (_, c) =>
      let headerEnds := c.next?.any isBreak
      let start := if headerEnds then c.nextLine else c
      if !endsLine c.next? ∨ start.next? = some '\t' then none
      else
        let size := start.rest.length + 1
        let (empty, column, c) : Nat × Nat × Cursor :=
          match header.increment with
          | some n =>
            let column := n + indent.toNat
            let (empty, c) := passEmpty column size 0 start
            (empty, column, c)
          | none =>
            let (empty, deepest, c) := passFirst size 0 0 start
            (empty, max deepest (indent + 1).toNat, c)
        if c.rest = [] then
          some (String.ofList (emptyBlock header.chomping headerEnds empty), c)
        else if c.column < column ∧ indent < c.column then none
        else
          let t := readBlockLines fold column size { cursor := c, empty := empty }
          some (String.ofList (t.finish header.chomping column), t.cursor)

end PlumeForm.SettingsTree.Yaml
