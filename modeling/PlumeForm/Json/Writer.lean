import PlumeForm.Json.Basic
import PlumeForm.Decimal.Writer

/-!
# Writing JSON

The spread form puts every item and member on a line of its own, two spaces deeper than what holds
it, with `[]` and an empty pair of braces for what is empty. The compact form has no white space. In
texts only the double quote, the backslash and the controls below the space are escaped.
-/

namespace PlumeForm.Json

/-- One character of a text. -/
def escapeChar (c : Char) : List Char :=
  if c = '"' then ['\\', '"']
  else if c = '\\' then ['\\', '\\']
  else if c = '\x08' then ['\\', 'b']
  else if c = '\x0c' then ['\\', 'f']
  else if c = '\n' then ['\\', 'n']
  else if c = '\r' then ['\\', 'r']
  else if c = '\t' then ['\\', 't']
  else if c.toNat < 0x20 then
    ['\\', 'u', '0', '0'] ++ (if c.toNat < 16 then ['0'] else []) ++ Nat.toDigits 16 c.toNat
  else [c]

/-- A text between double quotes. -/
def writeText (s : String) : List Char :=
  '"' :: s.toList.flatMap escapeChar ++ ['"']

/-- A number; a double that is not finite is `null`. -/
def writeNumber : JsonNumber → List Char
  | .integer z => (toString z).toList
  | .real x => if x.isFinite then (Decimal.transcriptText x).toList else "null".toList

/-- Pieces with a separator between them. -/
def joinWith (separator : List Char) (pieces : List (List Char)) : List Char :=
  separator.intercalate pieces

/-! ## On one line -/

mutual

/-- A value without white space. -/
def compactChars : Json → List Char
  | .null => "null".toList
  | .bool b => (if b then "true" else "false").toList
  | .number n => writeNumber n
  | .text s => writeText s
  | .list items => '[' :: joinWith [','] (compactItems items) ++ [']']
  | .object members => '\x7b' :: joinWith [','] (compactMembers members) ++ ['\x7d']

/-- The items of a list. -/
def compactItems : List Json → List (List Char)
  | [] => []
  | v :: vs => compactChars v :: compactItems vs

/-- The members of an object. -/
def compactMembers : List (String × Json) → List (List Char)
  | [] => []
  | (n, v) :: ms => (writeText n ++ ':' :: compactChars v) :: compactMembers ms

end

/-- A value without white space. -/
def compact (v : Json) : String :=
  String.ofList (compactChars v)

/-! ## On many lines -/

/-- A new line at a depth. -/
def newLine (depth : Nat) : List Char :=
  '\n' :: List.replicate (2 * depth) ' '

mutual

/-- A value whose first line is already at its depth. -/
def spreadChars (depth : Nat) : Json → List Char
  | .null => "null".toList
  | .bool b => (if b then "true" else "false").toList
  | .number n => writeNumber n
  | .text s => writeText s
  | .list [] => ['[', ']']
  | .list (v :: vs) =>
    '[' :: joinWith [','] (spreadItems (depth + 1) (v :: vs)) ++ newLine depth ++ [']']
  | .object [] => ['\x7b', '\x7d']
  | .object (m :: ms) =>
    '\x7b' :: joinWith [','] (spreadMembers (depth + 1) (m :: ms)) ++ newLine depth ++ ['\x7d']

/-- The items of a list, each behind a new line. -/
def spreadItems (depth : Nat) : List Json → List (List Char)
  | [] => []
  | v :: vs => (newLine depth ++ spreadChars depth v) :: spreadItems depth vs

/-- The members of an object, each behind a new line. -/
def spreadMembers (depth : Nat) : List (String × Json) → List (List Char)
  | [] => []
  | (n, v) :: ms =>
    (newLine depth ++ writeText n ++ [':', ' '] ++ spreadChars depth v) :: spreadMembers depth ms

end

/-- A value with every item and member on a line of its own. -/
def spread (v : Json) : String :=
  String.ofList (spreadChars 0 v)

end PlumeForm.Json
