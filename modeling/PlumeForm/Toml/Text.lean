import PlumeForm.Toml.Basic
import PlumeForm.Text.Hex

/-!
# Texts in TOML

A text stands between double quotes, with escapes, or between single quotes, without any. Between
three quotes it may have many lines: a line end right behind the opening quotes does not count,
every line end is a line feed, one or two quotes may stand before the closing ones, and with
double quotes a backslash at the end of a line joins it to the next thing that is not white space.
-/

namespace PlumeForm.Toml

/-- The character of an escape with one letter. -/
def escaped? (c : Char) : Option Char :=
  if c = '"' ∨ c = '\\' then some c
  else if c = 'b' then some '\x08'
  else if c = 'f' then some '\x0c'
  else if c = 'n' then some '\n'
  else if c = 'r' then some '\r'
  else if c = 't' then some '\t'
  else none

/-- The text up to a double quote, and what follows it; `done` is what has been read, last first. -/
def readBasic? (done : List Char) : List Char → Option (List Char × List Char)
  | [] => none
  | '"' :: rest => some (done.reverse, rest)
  | '\\' :: 'u' :: a :: b :: c :: d :: rest =>
    match Text.hexChar? [a, b, c, d] with
    | some x => readBasic? (x :: done) rest
    | none => none
  | '\\' :: 'U' :: a :: b :: c :: d :: e :: f :: g :: h :: rest =>
    match Text.hexChar? [a, b, c, d, e, f, g, h] with
    | some x => readBasic? (x :: done) rest
    | none => none
  | '\\' :: e :: rest =>
    match escaped? e with
    | some x => readBasic? (x :: done) rest
    | none => none
  | c :: rest => if isControl c ∨ c = '\\' then none else readBasic? (c :: done) rest

/-- The text up to a single quote, and what follows it. -/
def readLiteral? (cs : List Char) : Option (List Char × List Char) :=
  match cs.span (· ≠ '\'') with
  | (found, _ :: rest) => if found.any isControl then none else some (found, rest)
  | (_, []) => none

/-- The text without a line end at its front. -/
def dropLineEnd : List Char → List Char
  | '\n' :: rest => rest
  | '\r' :: '\n' :: rest => rest
  | cs => cs

/-- A line end follows, perhaps behind white space. -/
def endsLine (cs : List Char) : Bool :=
  match skipGaps cs with
  | '\n' :: _ => true
  | '\r' :: '\n' :: _ => true
  | _ => false

/-- The text of many lines up to three quotes, and what follows them. Between double quotes there
are escapes; while `joining`, white space and line ends are passed over. -/
def readLines? (quote : Char) (joining : Bool) (done : List Char) :
    List Char → Option (List Char × List Char)
  | [] => none
  | c :: rest =>
    if c = quote then
      match rest with
      | c₂ :: c₃ :: c₄ :: c₅ :: tail =>
        if c₂ = quote ∧ c₃ = quote then
          if c₄ = quote ∧ c₅ = quote then some ((quote :: quote :: done).reverse, tail)
          else if c₄ = quote then some ((quote :: done).reverse, c₅ :: tail)
          else some (done.reverse, c₄ :: c₅ :: tail)
        else readLines? quote false (c :: done) (c₂ :: c₃ :: c₄ :: c₅ :: tail)
      | [c₂, c₃, c₄] =>
        if c₂ = quote ∧ c₃ = quote then
          if c₄ = quote then some ((quote :: done).reverse, []) else some (done.reverse, [c₄])
        else readLines? quote false (c :: done) [c₂, c₃, c₄]
      | [c₂, c₃] => if c₂ = quote ∧ c₃ = quote then some (done.reverse, []) else none
      | _ => none
    else if c = '\n' then readLines? quote joining (if joining then done else c :: done) rest
    else if c = '\r' then
      match rest with
      | '\n' :: tail => readLines? quote joining (if joining then done else '\n' :: done) tail
      | _ => none
    else if joining && isGap c then readLines? quote true done rest
    else if c = '\\' ∧ quote = '"' then
      match rest with
      | 'u' :: d₁ :: d₂ :: d₃ :: d₄ :: tail =>
        match Text.hexChar? [d₁, d₂, d₃, d₄] with
        | some x => readLines? quote false (x :: done) tail
        | none => none
      | 'U' :: d₁ :: d₂ :: d₃ :: d₄ :: d₅ :: d₆ :: d₇ :: d₈ :: tail =>
        match Text.hexChar? [d₁, d₂, d₃, d₄, d₅, d₆, d₇, d₈] with
        | some x => readLines? quote false (x :: done) tail
        | none => none
      | e :: tail =>
        if endsLine (e :: tail) then readLines? quote true done (e :: tail)
        else
          match escaped? e with
          | some x => readLines? quote false (x :: done) tail
          | none => none
      | [] => none
    else if isControl c then none
    else readLines? quote false (c :: done) rest
termination_by cs => cs.length

/-- A text at the front of a text, and what follows it. -/
def readText? : List Char → Option (String × List Char)
  | '"' :: '"' :: '"' :: rest => found (readLines? '"' false [] (dropLineEnd rest))
  | '\'' :: '\'' :: '\'' :: rest => found (readLines? '\'' false [] (dropLineEnd rest))
  | '"' :: rest => found (readBasic? [] rest)
  | '\'' :: rest => found (readLiteral? rest)
  | _ => none
where
  /-- The characters as a text. -/
  found (result : Option (List Char × List Char)) : Option (String × List Char) :=
    result.map fun p => (String.ofList p.1, p.2)

end PlumeForm.Toml
