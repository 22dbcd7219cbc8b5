import PlumeForm.Settings.Yaml.Plain
import PlumeForm.Text.Hex

/-!
# Quoted scalars of YAML

Between single quotes a quote is written twice, between double quotes there are escapes. A line end
is a space and empty lines are line ends, as in plain scalars; a backslash at the end of a line
joins it to the next one without a space.
-/

namespace PlumeForm.SettingsTree.Yaml

/-- The character of an escape with one letter. -/
def escaped? (c : Char) : Option Char :=
  if c = '0' then some '\x00'
  else if c = 'a' then some '\x07'
  else if c = 'b' then some '\x08'
  else if c = 't' ∨ c = '\t' then some '\t'
  else if c = 'n' then some '\n'
  else if c = 'v' then some '\x0b'
  else if c = 'f' then some '\x0c'
  else if c = 'r' then some '\r'
  else if c = 'e' then some '\x1b'
  else if c = 'N' then some '\u0085'
  else if c = '_' then some '\u00A0'
  else if c = 'L' then some '\u2028'
  else if c = 'P' then some '\u2029'
  else if c = ' ' ∨ c = '"' ∨ c = '/' ∨ c = '\\' then some c
  else none

/-- The character that so many hexadecimal digits denote, and what follows them. -/
def readNumbered? (width : Nat) (cs : List Char) : Option (Char × List Char) :=
  if cs.length < width then none
  else (Text.hexChar? (cs.take width)).map fun c => (c, cs.drop width)

/-- The character that what is behind a backslash denotes, and what follows. -/
def readEscape? : List Char → Option (Char × List Char)
  | 'x' :: rest => readNumbered? 2 rest
  | 'u' :: rest => readNumbered? 4 rest
  | 'U' :: rest => readNumbered? 8 rest
  | c :: rest => (escaped? c).map fun c => (c, rest)
  | [] => none

/-- The text up to white space, the end of the line, the closing quote or a backslash before a line
end, and what follows from there on; there are fewer characters than `room`. -/
def readQuotedWord? (single : Bool) : Nat → List Char → Option (List Char × List Char)
  | 0, _ => none
  | _, [] => some ([], [])
  | room + 1, c :: rest =>
    if isGap c || isBreak c then some ([], c :: rest)
    else if single && c == '\'' then
      match rest with
      | '\'' :: rest => (readQuotedWord? single room rest).map fun p => ('\'' :: p.1, p.2)
      | _ => some ([], c :: rest)
    else if !single && c == '"' then some ([], c :: rest)
    else if !single && c == '\\' then
      if rest.head?.any isBreak then some ([], c :: rest)
      else
        match readEscape? rest with
        | some (x, rest) => (readQuotedWord? single room rest).map fun p => (x :: p.1, p.2)
        | none => none
    else (readQuotedWord? single room rest).map fun p => (c :: p.1, p.2)

/-- What stands between two words of a quoted scalar. -/
inductive QuotedJoint where
  | plain (joint : Joint)
  /-- A line that a backslash joins to the next one; then so many empty lines. -/
  | joined (breaks : Nat)

/-- The text between two words. -/
def QuotedJoint.text : QuotedJoint → List Char
  | plain joint => joint.text
  | joined breaks => List.replicate breaks '\n'

/-- The joint with one more line end. -/
def QuotedJoint.lineEnd : QuotedJoint → QuotedJoint
  | plain joint => plain joint.lineEnd
  | joined breaks => joined (breaks + 1)

/-- The joint with one more character of white space. -/
def QuotedJoint.space (c : Char) : QuotedJoint → QuotedJoint
  | plain joint => plain (joint.space c)
  | joined breaks => joined breaks

/-- White space in the joint indents a line. -/
def QuotedJoint.indents : QuotedJoint → Bool
  | plain (.gap _) => false
  | _ => true

/-- The joint behind a word, and the cursor behind it. A tab may not stand where a line is
indented. -/
def passQuotedJoint? (indent : Int) :
    Nat → QuotedJoint → Cursor → Option (QuotedJoint × Cursor)
  | 0, _, _ => none
  | room + 1, joint, c =>
    match c.next? with
    | none => some (joint, c)
    | some x =>
      if isBreak x then passQuotedJoint? indent room joint.lineEnd c.nextLine
      else if !isGap x then some (joint, c)
      else if joint.indents && x == '\t' && decide (c.column < indent) then none
      else passQuotedJoint? indent room (joint.space x) (c.pass 1)

/-- The words of a quoted scalar, which are fewer than `room`, and the cursor at its closing quote;
`done` is its text so far, last character first. -/
def readQuotedWords? (single : Bool) (indent : Int) :
    Nat → List Char → Cursor → Option (List Char × Cursor)
  | 0, _, _ => none
  | room + 1, done, c =>
    if c.atMarker ∨ c.rest = [] ∨ c.column < indent then none
    else
      match readQuotedWord? single (c.rest.length + 1) c.rest with
      | none => none
      | some (word, rest) =>
        let done := word.reverse ++ done
        let c := c.passTo rest
        let (joint, c) : QuotedJoint × Cursor :=
          if c.next? = some '\\' then (.joined 0, (c.pass 1).nextLine) else (.plain (.gap []), c)
        if c.next? = some (if single then '\'' else '"') then some (done.reverse, c)
        else
          match passQuotedJoint? indent (c.rest.length + 1) joint c with
          | none => none
          | some (joint, c) =>
            readQuotedWords? single indent room (joint.text.reverse ++ done) c

/-- What may stand behind the closing quote of a scalar that began on the same line or not: the end
of the line, a colon, or between brackets their marks. -/
def mayFollowQuote (inFlow sameLine : Bool) : Option Char → Bool
  | none => true
  | some c =>
    isBreak c || (c == ':' && (inFlow || sameLine)) ||
      (inFlow && (c == ',' || c == ']' || c == '\x7d'))

/-- The text of the quoted scalar at a cursor, and the cursor behind it. -/
def readQuoted? (single inFlow : Bool) (indent : Int) (c : Cursor) : Option (String × Cursor) :=
  match readQuotedWords? single indent (c.rest.length + 1) [] (c.pass 1) with
  | none => none
  | some (content, c₁) =>
    match (c₁.pass 1).passGap? with
    | none => none
    | some (_, behind) =>
      if mayFollowQuote inFlow (behind.line == c.line) behind.next? then
        some (String.ofList content, behind)
      else none

end PlumeForm.SettingsTree.Yaml
