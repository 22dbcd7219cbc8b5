import PlumeForm.Text.Hex

/-!
# Names and texts in RON

A name begins with a letter of ASCII or an underscore, and may not touch a point or a sign; behind
`r#` it may hold them. A text stands between double quotes, with escapes, or behind an `r` between
as many number signs on either side as its quotes need. A single character stands between single
quotes.
-/

namespace PlumeForm.SettingsTree.Ron

/-! ## Names -/

/-- A character with which a name begins. -/
def isNameStart (c : Char) : Bool :=
  c.isAlpha || c == '_'

/-- A character inside a name. -/
def isNameChar (c : Char) : Bool :=
  c.isAlphanum || c == '_'

/-- A character inside a name behind `r#`. -/
def isRawNameChar (c : Char) : Bool :=
  isNameChar c || c == '.' || c == '+' || c == '-'

/-- The name at the front of a text, and what follows it. -/
def readName? : List Char → Option (List Char × List Char)
  | [] => none
  | ['r'] => none
  | 'r' :: '"' :: _ => none
  | 'r' :: '#' :: rest =>
    let (name, rest) := rest.span isRawNameChar
    if name = [] then none else some (name, rest)
  | c :: cs =>
    let (name, rest) := (c :: cs).span isNameChar
    if !isNameStart c || rest.head?.any isRawNameChar then none else some (name, rest)

/-! ## Characters -/

/-- The character of an escape with one letter. -/
def escaped? (c : Char) : Option Char :=
  if c = '\'' ∨ c = '"' ∨ c = '\\' then some c
  else if c = 'n' then some '\n'
  else if c = 'r' then some '\r'
  else if c = 't' then some '\t'
  else if c = '0' then some '\x00'
  else none

/-- The character between braces: one to six hexadecimal digits; and what follows the braces. -/
def readBraced? (cs : List Char) : Option (Char × List Char) :=
  match cs.span (Text.isDigitOf 16) with
  | (digits, '\x7d' :: rest) =>
    if digits = [] ∨ 6 < digits.length then none
    else (Text.hexChar? digits).map fun c => (c, rest)
  | _ => none

/-- The character that a backslash and what is behind it denote, and what follows. -/
def readEscape? : List Char → Option (Char × List Char)
  | 'x' :: a :: b :: rest => (Text.hexChar? [a, b]).map fun c => (c, rest)
  | 'u' :: '\x7b' :: rest => readBraced? rest
  | c :: rest => (escaped? c).map fun c => (c, rest)
  | [] => none

/-- The character up to a single quote, and what follows the quote. -/
def readChar? : List Char → Option (Char × List Char)
  | '\\' :: rest =>
    match readEscape? rest with
    | some (c, '\'' :: rest) => some (c, rest)
    | _ => none
  | c :: '\'' :: rest => if c = '\'' then none else some (c, rest)
  | _ => none

/-! ## Texts -/

/-- The text up to a double quote, and what follows it; there are fewer characters than `room`. -/
def readQuoted? : Nat → List Char → Option (List Char × List Char)
  | 0, _ => none
  | _, [] => none
  | room + 1, c :: rest =>
    if c = '"' then some ([], rest)
    else if c = '\\' then
      match readEscape? rest with
      | some (x, rest) => (readQuoted? room rest).map fun p => (x :: p.1, p.2)
      | none => none
    else (readQuoted? room rest).map fun p => (c :: p.1, p.2)

/-- The text up to an ending, and what follows the ending. -/
def readUpTo? (ending : List Char) : List Char → Option (List Char × List Char)
  | [] => none
  | c :: rest =>
    if ending.isPrefixOf (c :: rest) then some ([], (c :: rest).drop ending.length)
    else (readUpTo? ending rest).map fun p => (c :: p.1, p.2)

/-- The text behind an `r`, and what follows it. -/
def readRaw? (cs : List Char) : Option (List Char × List Char) :=
  match cs.span (· = '#') with
  | (signs, '"' :: rest) => readUpTo? ('"' :: signs) rest
  | _ => none

/-- The text at the front of a text, and what follows it. -/
def readText? : List Char → Option (List Char × List Char)
  | '"' :: rest => readQuoted? (rest.length + 1) rest
  | 'r' :: rest => readRaw? rest
  | _ => none

end PlumeForm.SettingsTree.Ron
