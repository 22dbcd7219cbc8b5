import PlumeForm.Settings.Yaml.Cursor

/-!
# Plain scalars of YAML

A plain scalar is written without quotes. It ends before a comment, before a colon with white space
behind it, between brackets also before their marks, and where a line is not indented as deep as it
has to be. A line end inside it is a space, and empty lines are line ends.
-/

namespace PlumeForm.SettingsTree.Yaml

/-- What stands between two words: white space, or so many line ends. -/
inductive Joint where
  | gap (spaces : List Char)
  | breaks (count : Nat)

/-- The text of line ends: one is a space, and of more the first does not count. -/
def folded (count : Nat) : List Char :=
  if count = 1 then [' '] else List.replicate (count - 1) '\n'

/-- The text between two words. -/
def Joint.text : Joint → List Char
  | gap spaces => spaces
  | breaks count => folded count

/-- The joint with one more character of white space. -/
def Joint.space (c : Char) : Joint → Joint
  | gap spaces => gap (spaces ++ [c])
  | breaks count => breaks count

/-- The joint with one more line end. -/
def Joint.lineEnd : Joint → Joint
  | gap _ => breaks 1
  | breaks count => breaks (count + 1)

/-- A plain scalar ends before a character. -/
def endsPlain (inFlow : Bool) (c : Char) (next : Option Char) : Bool :=
  (c == ':' && (endsWord next || (inFlow && next.any isFlowMark))) || (inFlow && isFlowMark c)

/-- The word of a plain scalar at the front of a text, and what follows it. -/
def splitPlainWord (inFlow : Bool) : List Char → List Char × List Char
  | [] => ([], [])
  | c :: rest =>
    if isGap c || isBreak c || endsPlain inFlow c rest.head? then ([], c :: rest)
    else
      let (word, rest) := splitPlainWord inFlow rest
      (c :: word, rest)

/-- The joint behind a word, and the cursor behind it. A tab may not indent a line with something on
it. -/
def passJoint? (indent : Int) : Nat → Joint → Cursor → Option (Joint × Cursor)
  | 0, _, _ => none
  | room + 1, joint, c =>
    match c.next? with
    | none => some (joint, c)
    | some x =>
      if isBreak x then passJoint? indent room joint.lineEnd c.nextLine
      else if !isGap x then some (joint, c)
      else if !c.fresh then passJoint? indent room (joint.space x) (c.pass 1)
      else if x = '\t' ∧ c.column < indent then
        match c.passGap? with
        | some (_, c) => if endsLine c.next? then passJoint? indent room joint c else none
        | none => none
      else passJoint? indent room joint (c.pass 1)

/-- The words of a plain scalar, which are fewer than `room`, and the cursor behind them; `done` is
its text so far, last character first. The lines are indented as far as `indent` at least. -/
def readPlainWords? (inFlow : Bool) (indent : Int) :
    Nat → List Char → Joint → Cursor → Option (List Char × Cursor)
  | 0, _, _, _ => none
  | room + 1, done, joint, c =>
    if c.atMarker ∨ c.next? = some '#' then some (done.reverse, c)
    else if inFlow ∧ c.next? = some '-' ∧ c.second?.any isFlowMark then none
    else
      let (word, rest) := splitPlainWord inFlow c.rest
      let done := if word = [] then done else word.reverse ++ joint.text.reverse ++ done
      let joint := if word = [] then joint else .gap []
      let c := c.passTo rest
      if c.next?.isNone ∨ !endsWord c.next? then some (done.reverse, c)
      else
        match passJoint? indent (c.rest.length + 1) joint c with
        | none => none
        | some (joint, c) =>
          if !inFlow ∧ c.column < indent then some (done.reverse, c)
          else readPlainWords? inFlow indent room done joint c

/-- The text of the plain scalar at a cursor, and the cursor behind it. -/
def readPlain? (inFlow : Bool) (indent : Int) (c : Cursor) : Option (String × Cursor) :=
  if inFlow ∧ c.column < indent then none
  else
    (readPlainWords? inFlow indent (c.rest.length + 1) [] (.gap []) c).map fun p =>
      (String.ofList p.1, p.2)

end PlumeForm.SettingsTree.Yaml
