import PlumeForm.Settings.Ron.Number
import PlumeForm.Settings.Ron.Text

/-!
# Settings in RON

A value is a number, a text, a character, a truth value, a list between brackets, a map between
braces, or stands between parentheses: fields with names make a table, anything else a list. A name
before parentheses means nothing, a name alone is null, and so is `()`. `Some` says what stands
between its parentheses and `None` is null. A comma may stand behind the last item.
-/

namespace PlumeForm.SettingsTree.Ron

/-! ## White space and comments -/

/-- White space. -/
def isSpace (c : Char) : Bool :=
  c == ' ' || c == '\t' || c == '\n' || c == '\r'

/-- Whether a reader stands inside a comment. -/
inductive Comment where
  | none
  /-- Up to the end of its line. -/
  | line
  /-- Between a slash with a star and a star with a slash, inside so many others. -/
  | block (outer : Nat)

/-- What follows white space and comments; nothing when a comment does not end, or a slash begins
none. -/
def skipGaps? : Comment → List Char → Option (List Char)
  | .block _, [] => Option.none
  | _, [] => some []
  | .none, '/' :: '/' :: rest => skipGaps? .line rest
  | .none, '/' :: '*' :: rest => skipGaps? (.block 0) rest
  | .none, c :: rest =>
    if isSpace c then skipGaps? .none rest
    else if c = '/' then Option.none
    else some (c :: rest)
  | .line, c :: rest => skipGaps? (if c = '\n' then .none else .line) rest
  | .block 0, '*' :: '/' :: rest => skipGaps? .none rest
  | .block (outer + 1), '*' :: '/' :: rest => skipGaps? (.block outer) rest
  | .block outer, '/' :: '*' :: rest => skipGaps? (.block (outer + 1)) rest
  | .block outer, _ :: rest => skipGaps? (.block outer) rest

/-- What follows white space and comments. -/
def skip? (cs : List Char) : Option (List Char) :=
  skipGaps? .none cs

/-- What follows a character behind white space and comments. -/
def skipTo? (c : Char) (cs : List Char) : Option (List Char) :=
  match skip? cs with
  | some (d :: rest) => if d = c then some rest else none
  | _ => none

/-! ## Values -/

/-- The word at the front of a text, which is empty when no name begins there, and what follows. -/
def splitWord : List Char → List Char × List Char
  | [] => ([], [])
  | c :: cs => if isNameStart c then (c :: cs).span isNameChar else ([], c :: cs)

/-- The value of a word that needs nothing behind it. -/
def wordValue? (word : List Char) : Option SettingsTree :=
  if word = "true".toList then some (.bool true)
  else if word = "false".toList then some (.bool false)
  else if word = "None".toList then some .null
  else if word = "inf".toList then some (.real Decimal.infinity)
  else if word = "NaN".toList then some (.real Decimal.notANumber)
  else none

/-- Fields with names stand behind an opening parenthesis. -/
def beginsFields (cs : List Char) : Bool :=
  match (skip? cs).bind readName? with
  | some (_, rest) => (skipTo? ':' rest).isSome
  | none => false

/-- A value at the front of a text that holds no other values, and what follows it. -/
def readLeaf? : List Char → Option (SettingsTree × List Char)
  | '\'' :: rest => (readChar? rest).map fun p => (.text (String.ofList [p.1]), p.2)
  | '"' :: rest => (readText? ('"' :: rest)).map fun p => (.text (String.ofList p.1), p.2)
  | 'r' :: rest => (readText? ('r' :: rest)).map fun p => (.text (String.ofList p.1), p.2)
  | cs => readNumber? cs

/-- The text of a key. -/
def keyText? : SettingsTree → Option String
  | .text s => some s
  | _ => none

/-- How deep values may be nested. -/
def depthLimit : Nat := 128

mutual

/-- The value at the front of a text, inside so many others, and what follows it. -/
def readValue? (depth : Nat) : Nat → List Char → Option (SettingsTree × List Char)
  | 0, _ => none
  | _, [] => none
  | room + 1, c :: rest =>
    let cs := c :: rest
    let (word, behind) := splitWord cs
    if depthLimit < depth then none
    else if (wordValue? word).isSome then (wordValue? word).map fun v => (v, behind)
    else if word = "Some".toList then readSome? depth room behind
    else if "-inf".toList.isPrefixOf cs ∧ !(cs.drop 4).head?.any isNameChar then
      some (.real (-Decimal.infinity), cs.drop 4)
    else if c = '(' ∧ rest.head? = some ')' then some (.null, rest.drop 1)
    else
      match readName? cs with
      | some (_, behind) => readNamed? depth room behind
      | none =>
        if c = '(' then readNamed? depth room cs
        else if c = '[' then
          (readItems? (depth + 1) ']' room rest).map fun p => (.list p.1, p.2)
        else if c = '\x7b' then
          (readMembers? (depth + 1) false '\x7d' room [] rest).map fun p => (.table p.1, p.2)
        else readLeaf? cs
termination_by structural room => room

/-- What `Some` says, and what follows it. -/
def readSome? (depth : Nat) : Nat → List Char → Option (SettingsTree × List Char)
  | 0, _ => none
  | room + 1, cs =>
    match (skipTo? '(' cs).bind skip? with
    | none => none
    | some inner =>
      match readValue? (depth + 1) room inner with
      | none => none
      | some (value, rest) =>
        let rest := (skipTo? ',' rest).getD rest
        (skipTo? ')' rest).map fun rest => (value, rest)
termination_by structural room => room

/-- The value behind a name, and what follows it; without parentheses it is null. -/
def readNamed? (depth : Nat) : Nat → List Char → Option (SettingsTree × List Char)
  | 0, _ => none
  | room + 1, cs =>
    match skip? cs with
    | none => none
    | some ('(' :: rest) =>
      if beginsFields rest then
        (readMembers? (depth + 1) true ')' room [] rest).map fun p => (.table p.1, p.2)
      else (readItems? (depth + 1) ')' room rest).map fun p => (.list p.1, p.2)
    | some rest => some (.null, rest)
termination_by structural room => room

/-- The items of a list up to its end. -/
def readItems? (depth : Nat) (close : Char) :
    Nat → List Char → Option (List SettingsTree × List Char)
  | 0, _ => none
  | room + 1, cs =>
    match skip? cs with
    | none => none
    | some cs =>
      if cs.head? = some close then some ([], cs.drop 1)
      else
        match readValue? depth room cs with
        | none => none
        | some (value, rest) =>
          match skipTo? ',' rest with
          | some rest => (readItems? depth close room rest).map fun p => (value :: p.1, p.2)
          | none => (skipTo? close rest).map fun rest => ([value], rest)
termination_by structural room => room

/-- The members of a table up to its end; their keys are names when the table has fields, and else
texts. -/
def readMembers? (depth : Nat) (fields : Bool) (close : Char) :
    Nat → Members → List Char → Option (Members × List Char)
  | 0, _, _ => none
  | room + 1, done, cs =>
    match skip? cs with
    | none => none
    | some cs =>
      if cs.head? = some close then some (done, cs.drop 1)
      else
        match readKey? depth fields room cs with
        | none => none
        | some (key, rest) =>
          match readValue? depth room rest with
          | none => none
          | some (value, rest) =>
            let done := put done key value
            match skipTo? ',' rest with
            | some rest => readMembers? depth fields close room done rest
            | none => (skipTo? close rest).map fun rest => (done, rest)
termination_by structural room => room

/-- The key at the front of a text, and what follows its colon and the white space behind that. -/
def readKey? (depth : Nat) (fields : Bool) : Nat → List Char → Option (String × List Char)
  | 0, _ => none
  | room + 1, cs =>
    let key :=
      if fields then (readName? cs).map fun p => (String.ofList p.1, p.2)
      else
        (readValue? depth room cs).bind fun p => (keyText? p.1).map fun key => (key, p.2)
    match key with
    | none => none
    | some (key, rest) => ((skipTo? ':' rest).bind skip?).map fun rest => (key, rest)
termination_by structural room => room

end

/-! ## Documents -/

/-- What follows marks with white space and comments before each. -/
def skipAll? : List String → List Char → Option (List Char)
  | [], cs => some cs
  | mark :: marks, cs =>
    match skip? cs with
    | none => none
    | some cs =>
      if mark.toList.isPrefixOf cs then skipAll? marks (cs.drop mark.length) else none

/-- The extensions that a text may enable. -/
def extensions : List String :=
  ["unwrap_newtypes", "implicit_some", "unwrap_variant_newtypes"]

/-- What follows names of extensions with commas between them. -/
def skipExtensions? : Nat → List Char → Option (List Char)
  | 0, _ => none
  | room + 1, cs =>
    match (skip? cs).bind readName? with
    | none => none
    | some (name, rest) =>
      if extensions.contains (String.ofList name) then
        match (skipTo? ',' rest).bind skip? with
        | some rest =>
          if rest.head?.any isNameChar then skipExtensions? room rest else some rest
        | none => some rest
      else none

/-- What follows the lines at the front of a text that enable extensions, which are fewer than
`room`. -/
def skipHeader? : Nat → List Char → Option (List Char)
  | 0, _ => none
  | room + 1, cs =>
    match skip? cs with
    | some ('#' :: rest) =>
      let list := (skipAll? ["!", "[", "enable", "("] rest).bind (skipExtensions? room)
      (list.bind (skipAll? [")", "]"])).bind (skipHeader? room)
    | found => found

/-- The tree of a RON text. -/
def read? (source : String) : Option SettingsTree :=
  let size := source.length
  match skipHeader? (size + 1) source.toList with
  | none => none
  | some cs =>
    match readValue? 0 (4 * size + 4) cs with
    | none => none
    | some (value, rest) => if skip? rest = some [] then some value else none

end PlumeForm.SettingsTree.Ron
