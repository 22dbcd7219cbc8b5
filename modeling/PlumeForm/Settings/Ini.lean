import PlumeForm.Settings.Tree
import PlumeForm.Text.Blank
import PlumeForm.Text.Hex

/-!
# Settings in INI

A text has headers `[name]`, assignments `name = value` or `name: value`, and comments behind `;` or
`#`, which must be the first character of their line. Assignments before the first header are the
root's, those behind a header are of the table that it names; a table that is named again starts
anew. All values are texts. A value may stand between quotes, and a backslash escapes what follows
it wherever it stands.
-/

namespace PlumeForm.SettingsTree.Ini

/-! ## Reading -/

/-- An entry of a text. -/
inductive Entry where
  | header (name : String)
  | assignment (name value : String)
deriving DecidableEq, Repr

/-- What a backslash before a character stands for; a line that ends in one goes on. -/
def escaped (c : Char) : List Char :=
  if c = '0' then ['\x00']
  else if c = 'a' then ['\x07']
  else if c = 'b' then ['\x08']
  else if c = 't' then ['\t']
  else if c = 'r' then ['\r']
  else if c = 'n' then ['\n']
  else if c = '\n' then []
  else [c]

/-- The character with the number that four places denote: hexadecimal digits, the first of which
may be a plus sign instead. -/
def numbered? (a b c d : Char) : Option Char :=
  if a = '+' then Text.hexChar? [b, c, d] else Text.hexChar? [a, b, c, d]

/-- The text before the first character that stops it, and what follows from there on. Where the
text `mayEnd`, its end stops it too. -/
def readUntil? (stops : Char → Bool) (mayEnd : Bool) : List Char → Option (List Char × List Char)
  | [] => if mayEnd then some ([], []) else none
  | '\\' :: 'x' :: a :: b :: c :: d :: rest =>
    match numbered? a b c d with
    | some x => (readUntil? stops mayEnd rest).map fun p => (x :: p.1, p.2)
    | none => none
  | ['\\'] => none
  | '\\' :: c :: rest =>
    if c = 'x' then none
    else (readUntil? stops mayEnd rest).map fun p => (escaped c ++ p.1, p.2)
  | c :: rest =>
    if stops c then some ([], c :: rest)
    else (readUntil? stops mayEnd rest).map fun p => (c :: p.1, p.2)

/-- The end of a line. -/
def isLineEnd (c : Char) : Bool :=
  c == '\n' || c == '\r'

/-- The text up to the end of the line, and what follows from there on. -/
def readLine? (cs : List Char) : Option (List Char × List Char) :=
  readUntil? isLineEnd true cs

/-- The value behind the mark of an assignment, and what follows it. What stands behind a closing
quote is part of the value. -/
def readValue? (cs : List Char) : Option (List Char × List Char) :=
  match cs.dropWhile fun c => Text.isBlank c && !isLineEnd c with
  | [] => some ([], [])
  | c :: rest =>
    if c = '"' ∨ c = '\'' then
      match readUntil? (· == c) false rest with
      | some (quoted, _ :: rest) => (readLine? rest).map fun p => (quoted ++ p.1, p.2)
      | _ => none
    else readLine? (c :: rest)

/-- The text without the white space at its front, and whether it begins a line. -/
def skipBlanks (fresh : Bool) : List Char → Bool × List Char
  | [] => (fresh, [])
  | c :: rest => if Text.isBlank c then skipBlanks (c == '\n') rest else (fresh, c :: rest)

/-- The characters without the white space around them, as a text. -/
def trimmed (cs : List Char) : String :=
  String.ofList (Text.trim cs)

/-- The character between a name and its value. -/
def isMark (c : Char) : Bool :=
  c == '=' || c == ':'

/-- The assignment at the front of a text, and what follows it; its name may not be empty. -/
def readAssignment? (cs : List Char) : Option (Entry × List Char) :=
  match readUntil? isMark false cs with
  | some (name, _ :: rest) =>
    if trimmed name = "" then none
    else (readValue? rest).map fun p => (.assignment (trimmed name) (trimmed p.1), p.2)
  | _ => none

/-- The entries of a text, which are fewer than `room`. -/
def readEntries? : Nat → Bool → List Char → Option (List Entry)
  | 0, _, _ => none
  | room + 1, fresh, cs =>
    match skipBlanks fresh cs with
    | (_, []) => some []
    | (fresh, c :: rest) =>
      if c = ';' ∨ c = '#' then
        if fresh then readEntries? room false (rest.dropWhile (· ≠ '\n')) else none
      else if c = '[' then
        match readUntil? (· == ']') false rest with
        | some (name, _ :: rest) =>
          (readEntries? room false rest).map (.header (trimmed name) :: ·)
        | _ => none
      else
        match readAssignment? (c :: rest) with
        | some (entry, rest) => (readEntries? room false rest).map (entry :: ·)
        | none => none

/-! ## The tree -/

/-- The keys so far, and the table that the last header has named. -/
structure Outline where
  keys : Members := []
  current : Option String := none

/-- The outline with one more entry. -/
def Outline.step (outline : Outline) : Entry → Outline
  | .header name => ⟨put outline.keys name (table []), some name⟩
  | .assignment name value =>
    match outline.current with
    | none => { outline with keys := put outline.keys name (text value) }
    | some header =>
      let members := membersOf ((find? outline.keys header).getD null)
      { outline with keys := put outline.keys header (table (put members name (text value))) }

/-- The keys that entries set. -/
def keysOf (entries : List Entry) : Members :=
  (entries.foldl Outline.step {}).keys

/-- The keys of a text. -/
def read? (source : String) : Option Members :=
  (readEntries? (source.length + 1) true source.toList).map keysOf

end PlumeForm.SettingsTree.Ini
