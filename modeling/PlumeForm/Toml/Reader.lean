import PlumeForm.Toml.Moment
import PlumeForm.Toml.Number
import PlumeForm.Toml.Outline
import PlumeForm.Toml.Text

/-!
# Reading TOML

A document is read line by line: headers and assignments, with comments and empty lines between
them. Lists may run over many lines, tables between braces may not. Every step of a reader leaves
a shorter text, so the length of the text is room enough for all of them.
-/

namespace PlumeForm.Toml

/-! ## White space and comments -/

/-- What follows white space, line ends and comments; nothing when a comment holds a control. -/
def skipLines? (comment : Bool) : List Char → Option (List Char)
  | [] => some []
  | '\n' :: rest => skipLines? false rest
  | '\r' :: '\n' :: rest => skipLines? false rest
  | c :: rest =>
    if comment then if isControl c then none else skipLines? true rest
    else if isGap c then skipLines? false rest
    else if c = '#' then skipLines? true rest
    else some (c :: rest)

/-- What follows the white space at the end of a line, when nothing else but a comment is there. -/
def skipToEnd? (cs : List Char) : Option (List Char) :=
  match skipGaps cs with
  | [] => some []
  | '\n' :: rest => some ('\n' :: rest)
  | '\r' :: '\n' :: rest => some ('\n' :: rest)
  | '#' :: rest => some ('#' :: rest)
  | _ => none

/-! ## Names -/

/-- A character of a name without quotes. -/
def isNameChar (c : Char) : Bool :=
  c.isAlphanum || c == '_' || c == '-'

/-- A name at the front of a text, and what follows it. -/
def readName? : List Char → Option (String × List Char)
  | '"' :: rest => (readBasic? [] rest).map fun p => (String.ofList p.1, p.2)
  | '\'' :: rest => (readLiteral? rest).map fun p => (String.ofList p.1, p.2)
  | cs =>
    let (name, rest) := cs.span isNameChar
    if name = [] then none else some (String.ofList name, rest)

/-- How deep lists, tables between braces and names with points may be nested. -/
def depthLimit : Nat := 79

/-- The parts of a name with points, behind white space: those before the last point, and the last
one. The white space behind it is passed over. -/
def readParts? : Nat → List Char → Option (List String × String × List Char)
  | 0, _ => none
  | room + 1, cs =>
    match readName? (skipGaps cs) with
    | none => none
    | some (name, rest) =>
      match skipGaps rest with
      | '.' :: rest => (readParts? room rest).map fun p => (name :: p.1, p.2)
      | rest => some ([], name, rest)

/-- A name with points of which there are not too many. -/
def readPath? (room : Nat) (cs : List Char) : Option (List String × String × List Char) :=
  (readParts? room cs).filter fun p => p.1.length < depthLimit

/-! ## Values -/

/-- A character of a number, a date, a time or a truth value. -/
def isWordChar (c : Char) : Bool :=
  c.isAlphanum || c == '+' || c == '-' || c == '_' || c == '.' || c == ':'

/-- The value of a word. -/
def wordValue? (word : List Char) : Option Toml :=
  if word = "true".toList then some (.bool true)
  else if word = "false".toList then some (.bool false)
  else
    match readInteger? word with
    | some z => some (.integer z)
    | none =>
      match readReal? word with
      | some x => some (.real x)
      | none => (Moment.read? word).map .moment

/-- The word at the front of a text and what follows it. A date and a time with a space between them
are one word. -/
def cutWord (cs : List Char) : List Char × List Char :=
  let (word, rest) := cs.span isWordChar
  match rest with
  | ' ' :: d :: tail =>
    if d.isDigit ∧ (Moment.readDate? word).any (fun p => p.2 == []) then
      let (time, rest) := (d :: tail).span isWordChar
      (word ++ ' ' :: time, rest)
    else (word, rest)
  | _ => (word, rest)

mutual

/-- The value at the front of a text, inside so many lists and tables, and what follows it. -/
def readValue? (depth : Nat) : Nat → List Char → Option (Toml × List Char)
  | 0, _ => none
  | _ + 1, [] => none
  | room + 1, c :: rest =>
    if c = '"' ∨ c = '\'' then (readText? (c :: rest)).map fun p => (.text p.1, p.2)
    else if c = '[' then
      if depth < depthLimit then
        (readItems? (depth + 1) room rest).map fun p => (.list p.1, p.2)
      else none
    else if c = '\x7b' then
      if depth < depthLimit then
        match readAssignments? (depth + 1) true room rest with
        | some (assignments, rest) => (tableOf? assignments).map fun t => (t, rest)
        | none => none
      else none
    else
      let (word, rest) := cutWord (c :: rest)
      (wordValue? word).map fun v => (v, rest)
termination_by structural room => room

/-- The items of a list up to its end; a comma may stand behind the last one. -/
def readItems? (depth : Nat) : Nat → List Char → Option (List Toml × List Char)
  | 0, _ => none
  | room + 1, cs =>
    match skipLines? false cs with
    | none => none
    | some (']' :: rest) => some ([], rest)
    | some cs =>
      match readValue? depth room cs with
      | none => none
      | some (value, rest) =>
        match skipLines? false rest with
        | some (',' :: rest) => (readItems? depth room rest).map fun p => (value :: p.1, p.2)
        | some (']' :: rest) => some ([value], rest)
        | _ => none
termination_by structural room => room

/-- The assignments of a table up to its closing brace; only an empty table may close at once. -/
def readAssignments? (depth : Nat) (mayClose : Bool) :
    Nat → List Char → Option (List Assignment × List Char)
  | 0, _ => none
  | room + 1, cs =>
    if mayClose ∧ (skipGaps cs).head? = some '\x7d' then some ([], (skipGaps cs).drop 1)
    else
      match readAssignment? depth room cs with
      | none => none
      | some (assignment, rest) =>
        match skipGaps rest with
        | ',' :: rest =>
          (readAssignments? depth false room rest).map fun p => (assignment :: p.1, p.2)
        | '\x7d' :: rest => some ([assignment], rest)
        | _ => none
termination_by structural room => room

/-- The assignment at the front of a text, and what follows it. -/
def readAssignment? (depth : Nat) : Nat → List Char → Option (Assignment × List Char)
  | 0, _ => none
  | room + 1, cs =>
    match readPath? room cs with
    | some (path, name, '=' :: rest) =>
      (readValue? depth room (skipGaps rest)).map fun p => (⟨path, name, p.1⟩, p.2)
    | _ => none
termination_by structural room => room

end

/-! ## Documents -/

/-- The line at the front of a text, and what follows it; `room` is more than four times the
length of the text. -/
def readLine? (room : Nat) (cs : List Char) : Option (Line × List Char) :=
  match cs with
  | '[' :: '[' :: rest =>
    match readPath? room rest with
    | some (path, name, ']' :: ']' :: rest) => some (.openEntry path name, rest)
    | _ => none
  | '[' :: rest =>
    match readPath? room rest with
    | some (path, name, ']' :: rest) => some (.openTable path name, rest)
    | _ => none
  | cs => (readAssignment? 0 room cs).map fun p => (.assignment p.1, p.2)

/-- The lines of a text, of which there are fewer than `count`. -/
def readLinesWithin? (room : Nat) : Nat → List Char → Option (List Line)
  | 0, _ => none
  | count + 1, cs =>
    match skipLines? false cs with
    | none => none
    | some [] => some []
    | some cs =>
      match readLine? room cs with
      | none => none
      | some (line, rest) =>
        match skipToEnd? rest with
        | none => none
        | some rest => (readLinesWithin? room count rest).map (line :: ·)

/-- The text without a byte order mark at its front. -/
def dropMark : List Char → List Char
  | c :: rest => if c.toNat = 0xFEFF then rest else c :: rest
  | [] => []

/-- The members of the table that a document denotes. -/
def read? (text : String) : Option (List (String × Toml)) :=
  let cs := dropMark text.toList
  let size := cs.length
  (readLinesWithin? (4 * size + 4) (size + 1) cs).bind Outline.build?

end PlumeForm.Toml
