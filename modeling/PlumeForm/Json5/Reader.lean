import PlumeForm.Json5.Number
import PlumeForm.Json5.Text

/-!
# Reading JSON5

A text is cut into the tokens of JSON, with more white space, comments, names without quotes and
more numbers. A comma behind the last item or member is dropped, and the machine that reads JSON
does the rest.
-/

namespace PlumeForm.Json5

open Json (Token)

/-! ## White space and comments -/

/-- White space between tokens. -/
def isGap (c : Char) : Bool :=
  (Text.isBlank c && c != '\u0085') || c == '\uFEFF'

/-- Whether a reader stands inside a comment. -/
inductive Comment where
  | none
  /-- Up to the end of its line. -/
  | line
  /-- Up to a star and a slash. -/
  | block

/-- What follows white space and comments; nothing when a comment does not end. -/
def skipGaps? : Comment → List Char → Option (List Char)
  | .block, [] => Option.none
  | _, [] => some []
  | .none, '/' :: '/' :: rest => skipGaps? .line rest
  | .none, '/' :: '*' :: rest => skipGaps? .block rest
  | .none, c :: rest => if isGap c then skipGaps? .none rest else some (c :: rest)
  | .line, c :: rest => skipGaps? (if isLineEnd c then .none else .line) rest
  | .block, '*' :: '/' :: rest => skipGaps? .none rest
  | .block, _ :: rest => skipGaps? .block rest

/-! ## Tokens -/

/-- What a word means that is no name. -/
def wordToken? (word : List Char) : Option Token :=
  if word = "null".toList then some (.scalar .null)
  else if word = "true".toList then some (.scalar (.bool true))
  else if word = "false".toList then some (.scalar (.bool false))
  else (wordValue? word).map fun x => .scalar (.number (.real x))

/-- The token of a word, which is a name when a colon follows. -/
def namedToken? (word rest : List Char) : Option Token :=
  match skipGaps? .none rest with
  | some (':' :: _) => some (.scalar (.text (String.ofList word)))
  | _ => wordToken? word

/-- The token at the front of a text that does not begin with a gap, and what follows it. -/
def readToken? (c : Char) (rest : List Char) : Option (Token × List Char) :=
  match Json.mark? c with
  | some t => some (t, rest)
  | none =>
    if c = '"' ∨ c = '\'' then
      (readText? c [] none rest).map fun p => (.scalar (.text (String.ofList p.1)), p.2)
    else
      match readName? (c :: rest) with
      | some (word, rest) => (namedToken? word rest).map fun t => (t, rest)
      | none => (readNumber? (c :: rest)).map fun p => (.scalar (.number p.1), p.2)

/-- The tokens of a text, which are fewer than `room`. -/
def tokensWithin : Nat → List Char → Option (List Token)
  | 0, _ => none
  | room + 1, cs =>
    match skipGaps? .none cs with
    | none => none
    | some [] => some []
    | some (c :: rest) =>
      match readToken? c rest with
      | none => none
      | some (t, rest) => (tokensWithin room rest).map (t :: ·)

/-- A value ends with the token. -/
def endsValue : Token → Bool
  | .scalar _ => true
  | .closeList => true
  | .closeObject => true
  | _ => false

/-- A list or an object ends with the token. -/
def closes : Token → Bool
  | .closeList => true
  | .closeObject => true
  | _ => false

/-- The tokens without the commas between a value and the end of what holds it. -/
def dropCommas : List Token → List Token
  | t :: .comma :: u :: ts =>
    if endsValue t && closes u then t :: dropCommas (u :: ts)
    else t :: dropCommas (.comma :: u :: ts)
  | t :: ts => t :: dropCommas ts
  | [] => []

/-- The value of a JSON5 text. -/
def read? (text : String) : Option Json :=
  (tokensWithin (text.length + 1) text.toList).bind fun ts =>
    Json.ofTokens? ts.length (dropCommas ts)

end PlumeForm.Json5
