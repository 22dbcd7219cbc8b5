import PlumeForm.Settings.Yaml.Block
import PlumeForm.Settings.Yaml.Quoted
import PlumeForm.Settings.Yaml.Token

/-!
# From text to tokens in YAML

A scanner reads one token after another. It keeps the depths of the lists and tables of lines that
are open, and the token that a colon would make a key: the mark of a key, and where it is the first
one the mark of a table, go before that token once the colon is found. Where a token may not stand
there is no reading.
-/

namespace PlumeForm.SettingsTree.Yaml

/-- A depth that has been entered. -/
structure Depth where
  /-- The depth around it. -/
  outer : Int
  /-- A list or a table of lines ends with it. -/
  block : Bool

/-- The token that may turn out to be a key. -/
structure Candidate where
  possible : Bool := false
  /-- Nothing but a key may stand there. -/
  required : Bool := false
  /-- How many tokens stand before it. -/
  place : Nat := 0
  line : Nat := 0
  column : Nat := 0
  index : Nat := 0

/-- What stands between brackets or braces. -/
inductive Flow where
  | list
  | table
deriving DecidableEq, Repr

/-- A scanner in the midst of a text. -/
structure Scanner where
  cursor : Cursor
  tokens : Array Token := #[]
  /-- The depth of the innermost list or table of lines; -1 outside of all. -/
  depth : Int := -1
  /-- The depths that have been entered, innermost first. -/
  depths : List Depth := []
  /-- The brackets and braces that are open, innermost first. -/
  flows : List Flow := []
  /-- The candidate of the innermost brackets or braces. -/
  candidate : Candidate := {}
  /-- The candidates around it. -/
  candidates : List Candidate := []
  /-- A key may begin here. -/
  keyAllowed : Bool := true
  /-- Where a colon needs no white space behind it. -/
  adjacent : Nat := 0
  /-- The last token is one about a node, and began in the first column. -/
  atMargin : Bool := false

namespace Scanner

/-- The scanner with one more token. -/
def push (s : Scanner) (token : Token) : Scanner :=
  { s with tokens := s.tokens.push token, atMargin := false }

/-- The scanner at another cursor. -/
def moveTo (s : Scanner) (cursor : Cursor) : Scanner :=
  { s with cursor := cursor }

/-- The scanner is between brackets or braces. -/
def inFlow (s : Scanner) : Bool :=
  !s.flows.isEmpty

/-! ## Depths -/

/-- Depths left until one is at most a column, with the depth and the tokens so far. -/
def leaveDepths (column : Int) : List Depth → Int → Array Token → List Depth × Int × Array Token
  | [], depth, tokens => ([], depth, tokens)
  | d :: ds, depth, tokens =>
    if column < depth then
      leaveDepths column ds d.outer (if d.block then tokens.push .blockEnd else tokens)
    else (d :: ds, depth, tokens)

/-- The scanner after it has left the lists and tables of lines that are deeper than a column. -/
def leave (s : Scanner) (column : Int) : Scanner :=
  if s.inFlow then s
  else
    let (depths, depth, tokens) := leaveDepths column s.depths s.depth s.tokens
    { s with
      depths := depths
      depth := depth
      tokens := tokens
      atMargin := s.atMargin && tokens.size == s.tokens.size }

/-- Depths without the innermost ones that belong to no list or table of lines. -/
def dropMargins : List Depth → Int → List Depth × Int
  | [], depth => ([], depth)
  | d :: ds, depth => if d.block then (d :: ds, depth) else dropMargins ds d.outer

/-- The scanner without the innermost depths that belong to no list or table of lines. -/
def dropMargin (s : Scanner) : Scanner :=
  let (depths, depth) := dropMargins s.depths s.depth
  { s with depths := depths, depth := depth }

/-- The scanner without the innermost depth, if that belongs to no list or table of lines and is at
most a column. -/
def dropMarginAt (s : Scanner) (column : Nat) : Scanner :=
  match s.depths with
  | d :: ds => if !d.block ∧ s.depth ≤ column then { s with depths := ds, depth := d.outer } else s
  | [] => s

/-- The scanner in a list or a table of lines at a column; where that is a new one its token goes
before the one at a place. -/
def enter (s : Scanner) (column place : Nat) (token : Token) : Scanner :=
  if s.inFlow then s
  else
    let s := s.dropMarginAt column
    if s.depth < column then
      { s with
        depths := ⟨s.depth, true⟩ :: s.depths
        depth := column
        tokens := insertToken s.tokens place token }
    else s

/-- The scanner where what follows must be one column deeper. -/
def deepen (s : Scanner) : Scanner :=
  if !s.inFlow ∧ s.depths.head?.any (·.block) then
    { s with depths := ⟨s.depth, false⟩ :: s.depths, depth := s.depth + 1 }
  else s

/-! ## Keys -/

/-- The scanner without a candidate; a candidate that must be a key cannot be given up. -/
def dropCandidate? (s : Scanner) : Option Scanner :=
  if s.candidate.possible && s.candidate.required then none
  else some { s with candidate := { s.candidate with possible := false } }

/-- The scanner without a candidate that is too far away for a key: on another line or more than
1024 characters before. -/
def dropFarCandidate? (s : Scanner) : Option Scanner :=
  let far :=
    s.candidate.line < s.cursor.line || s.candidate.index + 1024 < s.cursor.index
  if !s.inFlow && s.candidate.possible && far then s.dropCandidate? else some s

/-- The scanner with the next token as the candidate, where a key may begin. -/
def saveCandidate (s : Scanner) : Scanner :=
  if !s.keyAllowed then s
  else
    { s with
      candidate :=
        { possible := true
          required := !s.inFlow && s.depth == s.cursor.column && s.depths.head?.any (·.block)
          place := s.tokens.size
          line := s.cursor.line
          column := s.cursor.column
          index := s.cursor.index } }

/-- The scanner before a token that may be a key but has no key behind it. -/
def beginScalar (s : Scanner) : Scanner :=
  { s.saveCandidate with keyAllowed := false }

/-! ## Between tokens -/

/-- The scanner before its next token. A tab may not indent a line of a list or a table of lines
that has something on it. -/
def passBlanks? : Nat → Scanner → Option Scanner
  | 0, _ => none
  | room + 1, s =>
    let c := s.cursor
    match c.next? with
    | none => some s
    | some x =>
      if x = '\t' ∧ !s.depths.isEmpty ∧ c.fresh ∧ c.column < s.depth then
        match c.passGap? with
        | some (_, c) => if endsLine c.next? then passBlanks? room (s.moveTo c) else none
        | none => none
      else if isGap x then passBlanks? room (s.moveTo (c.pass 1))
      else if isBreak x then
        passBlanks? room { s with cursor := c.nextLine, keyAllowed := s.keyAllowed || !s.inFlow }
      else if x = '#' then passBlanks? room (s.moveTo c.passLine)
      else some s

/-- The scanner before its next token. -/
def toToken? (s : Scanner) : Option Scanner :=
  passBlanks? (s.cursor.rest.length + 1) s

/-- The scanner behind the white space and the comment at the end of a line. -/
def passGap? (s : Scanner) : Option Scanner :=
  s.cursor.passGap?.map fun p => s.moveTo p.2

/-- The scanner behind so many characters. -/
def pass (n : Nat) (s : Scanner) : Scanner :=
  s.moveTo (s.cursor.pass n)

/-! ## Marks -/

/-- The scanner between the documents of a text. -/
def outside? (s : Scanner) : Option Scanner :=
  (s.leave (-1)).dropCandidate?.map fun s => { s with keyAllowed := false }

/-- The scanner behind a directive. -/
def directive? (s : Scanner) : Option Scanner :=
  match s.outside?, readDirective? (s.cursor.pass 1).rest with
  | some s, some (d, rest) =>
    match (s.cursor.passTo rest).passGap? with
    | some (_, c) =>
      if endsLine c.next? then some ((s.moveTo c.nextLine).push (.directive d)) else none
    | none => none
  | _, _ => none

/-- The scanner behind the mark that begins a document. -/
def documentStart? (s : Scanner) : Option Scanner :=
  s.outside?.map fun s => (s.pass 3).push .documentStart

/-- The scanner behind the mark that ends a document; nothing may stand behind it on its line. -/
def documentEnd? (s : Scanner) : Option Scanner :=
  match (s.outside?.map (pass 3)).bind passGap? with
  | some s => if endsLine s.cursor.next? then some (s.push .documentEnd) else none
  | none => none

/-- The scanner behind an opening bracket or brace. -/
def openFlow? (s : Scanner) (flow : Flow) (token : Token) : Option Scanner :=
  if 255 ≤ s.flows.length then none
  else
    let s := (s.saveCandidate.pass 1).deepen
    let s :=
      { s with
        flows := flow :: s.flows
        candidates := s.candidate :: s.candidates
        candidate := {}
        keyAllowed := true }
    s.passGap?.map fun (s : Scanner) => s.push token

/-- The scanner with the innermost brackets or braces closed. -/
def dropFlow (s : Scanner) : Scanner :=
  match s.candidates with
  | candidate :: candidates =>
    { s with flows := s.flows.tail, candidate := candidate, candidates := candidates }
  | [] => s

/-- The scanner behind a closing bracket or brace. -/
def closeFlow? (s : Scanner) (token : Token) : Option Scanner :=
  match s.dropCandidate? with
  | none => none
  | some s =>
    ({ s.dropFlow with keyAllowed := false }.pass 1).passGap?.map fun (s : Scanner) =>
      { s.push token with adjacent := if s.inFlow then s.cursor.index else s.adjacent }

/-- The scanner behind a comma. -/
def comma? (s : Scanner) : Option Scanner :=
  s.dropCandidate?.bind fun (s : Scanner) =>
    ({ s with keyAllowed := true }.pass 1).passGap?.map fun (s : Scanner) => s.push .comma

/-- The scanner behind the hyphen of an item. -/
def item? (s : Scanner) : Option Scanner :=
  let column := s.cursor.column
  if s.inFlow ∨ !s.keyAllowed ∨ (s.atMargin ∧ column = 0 ∧ -1 < s.depth) then none
  else
    let s := (s.pass 1).enter column s.tokens.size .listStart
    match s.cursor.passGap? with
    | none => none
    | some (gap, c) =>
      if '\t' ∈ gap ∧ c.next? = some '-' ∧ endsWord c.second? then none
      else
        let s := s.moveTo c
        let s := if c.next?.any fun x => isBreak x || isFlowMark x then s.deepen else s
        s.dropCandidate?.map fun s => { s with keyAllowed := true }.push .item

/-- The scanner behind the white space after a question mark; there has to be some. -/
def passKeyGap : Nat → Scanner → Scanner
  | 0, s => s
  | room + 1, s =>
    match s.cursor.next? with
    | none => s
    | some x =>
      if x = ' ' then passKeyGap room (s.pass 1)
      else if isBreak x then
        passKeyGap room
          { s with cursor := s.cursor.nextLine, keyAllowed := s.keyAllowed || !s.inFlow }
      else if x = '#' then passKeyGap room (s.moveTo s.cursor.passLine)
      else s

/-- The scanner behind the question mark of a key. -/
def key? (s : Scanner) : Option Scanner :=
  if !s.inFlow ∧ !s.keyAllowed then none
  else
    match (s.enter s.cursor.column s.tokens.size .tableStart).dropCandidate? with
    | none => none
    | some s =>
      let s := { s with keyAllowed := !s.inFlow }.pass 1
      match s.cursor.next? with
      | none => none
      | some x =>
        let s := passKeyGap (s.cursor.rest.length + 1) s
        if x = '\t' ∨ s.cursor.next? = some '\t' then none else some (s.push .key)

/-- The cursor behind a colon. A tab behind it may not be all that stands before a word. -/
def passColon? (c : Cursor) : Option Cursor :=
  if (c.pass 1).next? = some '\t' then
    match (c.pass 1).passGap? with
    | some (gap, c) =>
      if ' ' ∉ gap ∧ c.next?.any isHandleChar then none else some c
    | none => none
  else some (c.pass 1)

/-- The scanner behind the colon of a value. With a candidate, that becomes its key; in a list the
key must be on the same line. -/
def value? (s : Scanner) : Option Scanner :=
  let start := s.cursor
  match passColon? start with
  | none => none
  | some c =>
    let s := s.moveTo c
    let key := s.candidate
    if key.possible then
      if s.flows.head? = some .list ∧ key.line < start.line then none
      else
        let s := { s with tokens := insertToken s.tokens key.place .key }
        let s := (s.enter key.column key.place .tableStart).deepen
        let s := { s with candidate := { key with possible := false }, keyAllowed := false }
        some (s.push .value)
    else if !s.inFlow ∧ !s.keyAllowed then none
    else
      let s := (s.enter start.column s.tokens.size .tableStart).deepen
      some ({ s with keyAllowed := !s.inFlow }.push .value)

/-! ## Nodes -/

/-- A character of an anchor's name. -/
def isAnchorChar (c : Char) : Bool :=
  !isGap c && !isBreak c && !isFlowMark c && c != '\uFEFF'

/-- The scanner behind an anchor or an alias. -/
def named? (s : Scanner) (token : String → Token) : Option Scanner :=
  let margin := s.cursor.column == 0
  let s := s.beginScalar.pass 1
  let (name, c) := s.cursor.passWhile isAnchorChar
  if name = [] then none
  else some { (s.moveTo c).push (token (String.ofList name)) with atMargin := margin }

/-- The scanner behind a tag. -/
def tag? (s : Scanner) : Option Scanner :=
  let margin := s.cursor.column == 0
  let s := s.beginScalar
  match readTag? (s.cursor.pass 1).rest with
  | none => none
  | some (written, rest) =>
    if endsWord rest.head? ∨ (s.inFlow ∧ rest.head?.any isFlowMark) then
      some { (s.moveTo (s.cursor.passTo rest)).push (.tag written) with atMargin := margin }
    else none

/-- The scanner behind a block scalar. -/
def block? (s : Scanner) (fold : Bool) : Option Scanner :=
  let s := ({ s.saveCandidate with keyAllowed := true }.pass 1).dropMargin
  (readBlock? fold s.depth s.cursor).map fun (content, c) =>
    (s.moveTo c).push (.scalar false content)

/-- The scanner behind a quoted scalar. -/
def quoted? (s : Scanner) (single : Bool) : Option Scanner :=
  let s := s.beginScalar
  match readQuoted? single s.inFlow s.depth s.cursor with
  | none => none
  | some (content, c) =>
    (s.moveTo c).toToken?.map fun s =>
      { s.push (.scalar false content) with adjacent := s.cursor.index }

/-- The scanner behind a plain scalar. A scalar of many lines leaves it at the begin of one, where a
key may stand. -/
def plain? (s : Scanner) : Option Scanner :=
  let s := s.beginScalar.dropMargin
  (readPlain? s.inFlow (s.depth + 1) s.cursor).map fun (content, c) =>
    { (s.moveTo c).push (.scalar true content) with keyAllowed := s.keyAllowed || c.fresh }

/-! ## Tokens -/

/-- The scanner behind the token that begins with a character. -/
def token? (s : Scanner) (c : Char) : Option Scanner :=
  let next := s.cursor.second?
  let margin := s.cursor.column == 0
  if margin ∧ c = '%' then s.directive?
  else if margin ∧ beginsMarker '-' s.cursor.rest then s.documentStart?
  else if margin ∧ beginsMarker '.' s.cursor.rest then s.documentEnd?
  else if s.cursor.column < s.depth then none
  else if c = '[' then s.openFlow? .list .openList
  else if c = '\x7b' then s.openFlow? .table .openTable
  else if c = ']' then s.closeFlow? .closeList
  else if c = '\x7d' then s.closeFlow? .closeTable
  else if c = ',' then s.comma?
  else if c = '-' ∧ endsWord next then s.item?
  else if c = '?' ∧ endsWord next then s.key?
  else if c = ':' ∧ endsWord next then s.value?
  else if c = ':' ∧ s.inFlow ∧ s.cursor.index = s.adjacent then s.value?
  else if c = ':' ∧ s.inFlow ∧ next.any isFlowMark then
    if next = some '[' ∨ next = some '\x7b' then none else s.value?
  else if c = '*' then s.named? .alias
  else if c = '&' then s.named? .anchor
  else if c = '!' then s.tag?
  else if c = '|' ∧ !s.inFlow then s.block? false
  else if c = '>' ∧ !s.inFlow then s.block? true
  else if c = '\'' then s.quoted? true
  else if c = '"' then s.quoted? false
  else if c = '%' ∨ c = '@' ∨ c = '\x60' then none
  else s.plain?

/-- The tokens when the text ends; a key that is still required is missing. -/
def finish? (s : Scanner) : Option (List Token) :=
  if (s.candidate :: s.candidates).any fun k => k.possible && k.required then none
  else some (s.leave (-1)).tokens.toList

/-- The tokens that follow, which are fewer than `room`, behind those read. -/
def scanWithin? : Nat → Scanner → Option (List Token)
  | 0, _ => none
  | room + 1, s =>
    match s.toToken?.bind dropFarCandidate? with
    | none => none
    | some s =>
      let s := s.leave s.cursor.column
      match s.cursor.next? with
      | none => s.finish?
      | some c => (s.token? c).bind (scanWithin? room)

end Scanner

/-- The tokens of a text. -/
def tokens? (cs : List Char) : Option (List Token) :=
  Scanner.scanWithin? (cs.length + 1) { cursor := { rest := cs } }

end PlumeForm.SettingsTree.Yaml
