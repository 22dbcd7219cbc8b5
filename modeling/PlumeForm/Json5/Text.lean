import PlumeForm.Json.Reader
import PlumeForm.Text.Blank
import PlumeForm.Text.Unprintable

/-!
# Texts and names in JSON5

A text stands between double or single quotes. Its escapes are those of JSON and some more, a
backslash before a line end joins two lines, and before any other character it means nothing. A
name may stand without quotes when it begins with a letter, a dollar sign or an underscore.
-/

namespace PlumeForm.Json5

/-- The end of a line. -/
def isLineEnd (c : Char) : Bool :=
  c == '\n' || c == '\r' || c == '\u2028' || c == '\u2029'

/-- The character of an escape with one letter; a few letters and the digits from 1 are none. -/
def escaped? (c : Char) : Option Char :=
  if c = 'b' then some '\x08'
  else if c = 'f' then some '\x0c'
  else if c = 'n' then some '\n'
  else if c = 'r' then some '\r'
  else if c = 't' then some '\t'
  else if c = 'v' then some '\x0b'
  else if c = '0' then some '\x00'
  else if c = 'x' ∨ c = 'u' ∨ c.isDigit then none
  else some c

/-- The characters of a text up to its closing quote, and what follows. `done` holds what has been
read, last character first; `high` is the first half of a pair of surrogates whose second half is
still to come. -/
def readText? (quote : Char) (done : List Char) (high : Option Nat) :
    List Char → Option (List Char × List Char)
  | [] => none
  | '\\' :: 'u' :: a :: b :: c :: d :: rest =>
    match (Json.hexFour? a b c d).bind (Json.numbered? high) with
    | some (char, high) => readText? quote (char.toList ++ done) high rest
    | none => none
  | '\\' :: 'x' :: a :: b :: rest =>
    match high, Text.hexChar? [a, b] with
    | none, some char => readText? quote (char :: done) none rest
    | _, _ => none
  | '\\' :: '\r' :: '\n' :: rest => readText? quote done high rest
  | '\\' :: e :: rest =>
    if isLineEnd e then readText? quote done high rest
    else
      match high, escaped? e with
      | none, some char => readText? quote (char :: done) none rest
      | _, _ => none
  | c :: rest =>
    if high.isSome ∨ c = '\\' ∨ isLineEnd c then none
    else if c = quote then some (done.reverse, rest)
    else readText? quote (c :: done) none rest

/-! ## Names -/

/-- A character with which a name begins. Beyond ASCII that is every character that shows. -/
def isNameStart (c : Char) : Bool :=
  c.isAlpha || c == '$' || c == '_' ||
    (0x7F < c.toNat && !Text.isBlank c && !Text.isUnprintable c)

/-- A character inside a name; the joiners without a width are among them. -/
def isNameChar (c : Char) : Bool :=
  isNameStart c || c.isDigit || c == '\u200C' || c == '\u200D'

/-- The rest of a name, and what follows it. -/
def readNameRest? (done : List Char) (high : Option Nat) :
    List Char → Option (List Char × List Char)
  | '\\' :: 'u' :: a :: b :: c :: d :: rest =>
    match (Json.hexFour? a b c d).bind (Json.numbered? high) with
    | some (char, high) => readNameRest? (char.toList ++ done) high rest
    | none => none
  | c :: rest =>
    if high.isSome ∨ c = '\\' then none
    else if isNameChar c then readNameRest? (c :: done) none rest
    else some (done.reverse, c :: rest)
  | [] => if high.isSome then none else some (done.reverse, [])

/-- The name without quotes at the front of a text, and what follows it. -/
def readName? : List Char → Option (List Char × List Char)
  | [] => none
  | c :: rest => if isNameStart c ∨ c = '\\' then readNameRest? [] none (c :: rest) else none

end PlumeForm.Json5
