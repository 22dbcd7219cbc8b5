import PlumeForm.Json.Number
import PlumeForm.Text.Hex

/-!
# Reading JSON

A text is cut into tokens, and the tokens are read by a machine that keeps the open lists and
objects on a stack. Escapes for surrogates must come in pairs, controls may not stand in a text,
and at most 127 lists and objects may be open at once.
-/

namespace PlumeForm.Json

/-! ## Texts -/

/-- The value of four hexadecimal digits. -/
def hexFour? (a b c d : Char) : Option Nat :=
  match Text.hexValue? a, Text.hexValue? b, Text.hexValue? c, Text.hexValue? d with
  | some w, some x, some y, some z => some (((w * 16 + x) * 16 + y) * 16 + z)
  | _, _, _, _ => none

/-- The character of an escape with one letter. -/
def escaped? (c : Char) : Option Char :=
  if c = '"' ∨ c = '\\' ∨ c = '/' then some c
  else if c = 'b' then some '\x08'
  else if c = 'f' then some '\x0c'
  else if c = 'n' then some '\n'
  else if c = 'r' then some '\r'
  else if c = 't' then some '\t'
  else none

/-- The character of a pair of surrogates. -/
def surrogatePair (high low : Nat) : Char :=
  Char.ofNat (0x10000 + (high - 0xD800) * 0x400 + (low - 0xDC00))

/-- What a numbered escape leaves behind: a character, or the first half of one. -/
def numbered? (high : Option Nat) (n : Nat) : Option (Option Char × Option Nat) :=
  match high with
  | some h => if 0xDC00 ≤ n ∧ n < 0xE000 then some (some (surrogatePair h n), none) else none
  | none =>
    if 0xD800 ≤ n ∧ n < 0xDC00 then some (none, some n)
    else if 0xDC00 ≤ n ∧ n < 0xE000 then none
    else some (some (Char.ofNat n), none)

/-- The characters of a text up to its closing quote, and what follows. `done` holds what has been
read, last character first; `high` is the first half of a pair of surrogates whose second half is
still to come. -/
def readText? (done : List Char) (high : Option Nat) : List Char → Option (List Char × List Char)
  | [] => none
  | '"' :: rest => if high.isSome then none else some (done.reverse, rest)
  | '\\' :: 'u' :: a :: b :: c :: d :: rest =>
    match hexFour? a b c d with
    | none => none
    | some n =>
      match numbered? high n with
      | none => none
      | some (char, high) => readText? (char.toList ++ done) high rest
  | '\\' :: e :: rest =>
    if high.isSome then none
    else
      match escaped? e with
      | none => none
      | some c => readText? (c :: done) none rest
  | c :: rest =>
    if high.isSome ∨ c.toNat < 0x20 ∨ c = '\\' then none else readText? (c :: done) none rest

/-! ## Tokens -/

/-- A token of JSON text. -/
inductive Token where
  | openList
  | closeList
  | openObject
  | closeObject
  | comma
  | colon
  | scalar (value : Json)
deriving Repr

/-- White space between tokens. -/
def isGap (c : Char) : Bool :=
  c == ' ' || c == '\t' || c == '\n' || c == '\r'

/-- The token of one character. -/
def mark? (c : Char) : Option Token :=
  if c = '[' then some .openList
  else if c = ']' then some .closeList
  else if c = '\x7b' then some .openObject
  else if c = '\x7d' then some .closeObject
  else if c = ',' then some .comma
  else if c = ':' then some .colon
  else none

/-- What follows a word, when the text begins with it. -/
def dropWord? : List Char → List Char → Option (List Char)
  | [], cs => some cs
  | w :: ws, c :: cs => if w = c then dropWord? ws cs else none
  | _ :: _, [] => none

/-- A text, number, truth value or null at the front of a text, and what follows it. -/
def readScalar? : List Char → Option (Json × List Char)
  | [] => none
  | c :: rest =>
    if c = '"' then (readText? [] none rest).map fun p => (.text (String.ofList p.1), p.2)
    else if c = 't' then (dropWord? "rue".toList rest).map fun r => (.bool true, r)
    else if c = 'f' then (dropWord? "alse".toList rest).map fun r => (.bool false, r)
    else if c = 'n' then (dropWord? "ull".toList rest).map fun r => (.null, r)
    else (readNumber? (c :: rest)).map fun p => (.number p.1, p.2)

/-- The token at the front of a text that does not begin with a gap, and what follows it. -/
def readToken? (c : Char) (rest : List Char) : Option (Token × List Char) :=
  match mark? c with
  | some t => some (t, rest)
  | none => (readScalar? (c :: rest)).map fun p => (.scalar p.1, p.2)

/-- The tokens of a text; each step leaves a shorter text, which `room` counts. -/
def tokensWithin : Nat → List Char → Option (List Token)
  | _, [] => some []
  | 0, _ :: _ => none
  | room + 1, c :: rest =>
    if isGap c then tokensWithin room rest
    else
      match readToken? c rest with
      | none => none
      | some (t, rest) => (tokensWithin room rest).map (t :: ·)

/-- The tokens of a text. -/
def tokens? (cs : List Char) : Option (List Token) :=
  tokensWithin cs.length cs

/-! ## The machine -/

/-- An open list or object, with what has been read of it; the items of a list are kept last
first. -/
inductive Frame where
  | items (done : List Json)
  | members (done : List (String × Json)) (name : String)

/-- What the machine waits for. -/
inductive Expecting where
  /-- A value; the list just opened may also close. -/
  | value (mayClose : Bool)
  /-- The name of a member; the object just opened may also close. -/
  | name (done : List (String × Json)) (mayClose : Bool)
  /-- The colon behind a name. -/
  | colon (done : List (String × Json)) (name : String)
  /-- A comma or the end of the innermost frame. -/
  | separator (value : Json)

/-- The machine: the open frames, innermost first, and what it waits for. -/
structure Machine where
  frames : List Frame
  expecting : Expecting

/-- How many lists and objects may be open at once. -/
def depthLimit : Nat := 127

namespace Machine

/-- Nothing is read yet. -/
def start : Machine := ⟨[], .value false⟩

/-- One more frame is open, of which there may be so many. -/
def enter (limit : Nat) (frames : List Frame) (expecting : Expecting) : Option Machine :=
  if frames.length ≤ limit then some ⟨frames, expecting⟩ else none

/-- The machine after one more token; `none` when the token cannot stand there. -/
def step (limit : Nat) (m : Machine) (t : Token) : Option Machine :=
  match m.expecting, t with
  | .value _, .scalar v => some ⟨m.frames, .separator v⟩
  | .value _, .openList => enter limit (.items [] :: m.frames) (.value true)
  | .value _, .openObject => enter limit (.members [] "" :: m.frames) (.name [] true)
  | .value true, .closeList =>
    match m.frames with
    | .items _ :: outer => some ⟨outer, .separator (.list [])⟩
    | _ => none
  | .name done _, .scalar (.text n) => some ⟨m.frames, .colon done n⟩
  | .name _ true, .closeObject =>
    match m.frames with
    | .members .. :: outer => some ⟨outer, .separator (.object [])⟩
    | _ => none
  | .colon done n, .colon =>
    match m.frames with
    | .members .. :: outer => some ⟨.members done n :: outer, .value false⟩
    | _ => none
  | .separator v, .comma =>
    match m.frames with
    | .items done :: outer => some ⟨.items (v :: done) :: outer, .value false⟩
    | .members done n :: outer => some ⟨.members done n :: outer, .name (put done n v) false⟩
    | [] => none
  | .separator v, .closeList =>
    match m.frames with
    | .items done :: outer => some ⟨outer, .separator (.list (v :: done).reverse)⟩
    | _ => none
  | .separator v, .closeObject =>
    match m.frames with
    | .members done n :: outer => some ⟨outer, .separator (.object (put done n v))⟩
    | _ => none
  | _, _ => none

/-- The value that has been read, when nothing is open. -/
def result? : Machine → Option Json
  | ⟨[], .separator v⟩ => some v
  | _ => none

end Machine

/-- The value of tokens, with at most so many lists and objects open at once. -/
def ofTokens? (limit : Nat) (ts : List Token) : Option Json :=
  match ts.foldlM (Machine.step limit) Machine.start with
  | none => none
  | some m => m.result?

/-- The value of a JSON text. -/
def read? (text : String) : Option Json :=
  (tokens? text.toList).bind (ofTokens? depthLimit)

end PlumeForm.Json
