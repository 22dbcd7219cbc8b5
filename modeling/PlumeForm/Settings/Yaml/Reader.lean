import PlumeForm.Settings.Yaml.Scalar
import PlumeForm.Settings.Yaml.Scanner

/-!
# Settings in YAML

The tokens of a text are read as documents, of which settings may have one at most; without any
they are an empty table. Keys are texts or whole numbers, and no two keys of a table are the same.
An alias stands for the node that its anchor has marked, which must come before it; inside of that
node it is null.
-/

namespace PlumeForm.SettingsTree.Yaml

/-! ## Keys -/

/-- A key of a table. -/
inductive Key where
  | text (s : String)
  | whole (z : Int)
deriving DecidableEq, Repr

/-- The key that a node is. -/
def Key.ofTree? : SettingsTree → Option Key
  | .text s => some (text s)
  | .integer z => some (whole z)
  | _ => none

/-- The name of a key. -/
def Key.name : Key → String
  | text s => s
  | whole z => toString z

/-- A table with its keys as they are written. -/
abbrev Table := List (Key × SettingsTree)

/-- The table with one more member, last of all; it may not have the key already. -/
def addMember? (t : Table) (key value : SettingsTree) : Option Table :=
  match Key.ofTree? key with
  | some k => if t.any fun m => m.1 == k then none else some (t ++ [(k, value)])
  | none => none

/-- The tree of a table. -/
def treeOf (t : Table) : SettingsTree :=
  table (t.foldl (fun members m => put members m.1.name m.2) [])

/-! ## Anchors and tags -/

/-- The names of anchors with the nodes that they have marked; a node that is not yet complete is
missing. -/
abbrev Anchors := Array (String × Option SettingsTree)

/-- The node of an alias; of anchors with one name the last one counts. -/
def alias? (anchors : Anchors) (name : String) : Option SettingsTree :=
  (anchors.findRev? fun a => a.1 == name).map fun a => a.2.getD null

/-- What handles of tags stand for. -/
abbrev Handles := List (String × String)

/-- What a handle stands for. -/
def handle? (handles : Handles) (name : String) : Option String :=
  (handles.find? fun h => h.1 == name).map (·.2)

/-- The tag that is written; a handle with a name must have been declared. -/
def tagOf? (handles : Handles) (t : WrittenTag) : Option Tag :=
  match handle? handles t.handle with
  | some space => some ⟨space, t.suffix⟩
  | none =>
    if t.handle = "!!" then some ⟨coreSpace, t.suffix⟩
    else if t.handle = "" ∨ t.handle = "!" then some ⟨t.handle, t.suffix⟩
    else none

/-- What is said about a node before it. -/
structure Properties where
  anchor : Option String := none
  tag : Option Tag := none

/-- The properties at the front of tokens, and what follows them. -/
def readProperties? (handles : Handles) : List Token → Option (Properties × List Token)
  | .anchor name :: .tag t :: rest =>
    (tagOf? handles t).map fun tag => (⟨some name, some tag⟩, rest)
  | .tag t :: .anchor name :: rest =>
    (tagOf? handles t).map fun tag => (⟨some name, some tag⟩, rest)
  | .anchor name :: rest => some (⟨some name, none⟩, rest)
  | .tag t :: rest => (tagOf? handles t).map fun tag => (⟨none, some tag⟩, rest)
  | tokens => some ({}, tokens)

/-! ## Nodes -/

/-- No node stands before the token in a table of lines. -/
def endsMember : Option Token → Bool
  | some .key => true
  | some .value => true
  | some .blockEnd => true
  | _ => false

/-- No node stands before the token in a list of lines. -/
def endsItem : Option Token → Bool
  | some .item => true
  | some .blockEnd => true
  | _ => false

/-- No node stands before the token in a list or a table between brackets or braces. -/
def endsFlow : Option Token → Bool
  | some .comma => true
  | some .closeList => true
  | some .closeTable => true
  | _ => false

/-- What follows a comma between two items. -/
def dropComma? (first : Bool) : List Token → Option (List Token)
  | tokens =>
    if first then some tokens
    else
      match tokens with
      | .comma :: rest => some rest
      | _ => none

/-- What has been read, the anchors so far, and what follows. -/
abbrev Found (α : Type) := Option (α × Anchors × List Token)

/-- An empty node, which must have a property. -/
def readEmpty? (properties : Properties) (anchors : Anchors) (tokens : List Token) :
    Found SettingsTree :=
  if properties.anchor.isNone ∧ properties.tag.isNone then none
  else (scalarValue? properties.tag true "").map fun v => (v, anchors, tokens)

mutual

/-- The node at the front of tokens. Where `block`, it may be a list or a table of lines, and where
`flat` such a list needs no depth of its own. -/
def readNode? (handles : Handles) (block flat : Bool) :
    Nat → Anchors → List Token → Found SettingsTree
  | 0, _, _ => none
  | room + 1, anchors, tokens =>
    match tokens with
    | .alias name :: rest => (alias? anchors name).map fun v => (v, anchors, rest)
    | _ =>
      match readProperties? handles tokens with
      | none => none
      | some (properties, rest) =>
        match properties.anchor with
        | none => readContent? handles block flat properties room anchors rest
        | some name =>
          (readContent? handles block flat properties room (anchors.push (name, none)) rest).map
            fun (value, after, rest) =>
              (value, after.setIfInBounds anchors.size (name, some value), rest)
termination_by structural room => room

/-- The node behind its properties; with any, it may be empty. -/
def readContent? (handles : Handles) (block flat : Bool) (properties : Properties) :
    Nat → Anchors → List Token → Found SettingsTree
  | 0, _, _ => none
  | room + 1, anchors, tokens =>
    match tokens with
    | .scalar plain s :: rest =>
      (scalarValue? properties.tag plain s).map fun v => (v, anchors, rest)
    | .openList :: rest =>
      (readFlowItems? handles true room anchors rest).map fun (vs, found) => (.list vs, found)
    | .openTable :: rest =>
      (readFlowMembers? handles true room [] anchors rest).map fun (t, found) => (treeOf t, found)
    | .item :: _ =>
      if flat then
        (readFlatItems? handles room anchors tokens).map fun (vs, found) => (.list vs, found)
      else readEmpty? properties anchors tokens
    | .listStart :: rest =>
      if block then
        (readItems? handles room anchors rest).map fun (vs, found) => (.list vs, found)
      else readEmpty? properties anchors tokens
    | .tableStart :: rest =>
      if block then
        (readMembers? handles room [] anchors rest).map fun (t, found) => (treeOf t, found)
      else readEmpty? properties anchors tokens
    | _ => readEmpty? properties anchors tokens
termination_by structural room => room

/-- The items of a list of lines up to its end. -/
def readItems? (handles : Handles) : Nat → Anchors → List Token → Found (List SettingsTree)
  | 0, _, _ => none
  | room + 1, anchors, tokens =>
    match tokens with
    | .blockEnd :: rest => some ([], anchors, rest)
    | .item :: rest =>
      match readUnless? handles (endsItem rest.head?) true false room anchors rest with
      | none => none
      | some (v, anchors, rest) =>
        (readItems? handles room anchors rest).map fun (vs, found) => (v :: vs, found)
    | _ => none
termination_by structural room => room

/-- The items of a list of lines that has no depth of its own. -/
def readFlatItems? (handles : Handles) : Nat → Anchors → List Token → Found (List SettingsTree)
  | 0, _, _ => none
  | room + 1, anchors, tokens =>
    match tokens with
    | .item :: rest =>
      let missing := endsItem rest.head? || endsMember rest.head?
      match readUnless? handles missing true false room anchors rest with
      | none => none
      | some (v, anchors, rest) =>
        (readFlatItems? handles room anchors rest).map fun (vs, found) => (v :: vs, found)
    | _ => some ([], anchors, tokens)
termination_by structural room => room

/-- The members of a table of lines up to its end, behind those read. -/
def readMembers? (handles : Handles) : Nat → Table → Anchors → List Token → Found Table
  | 0, _, _, _ => none
  | room + 1, done, anchors, tokens =>
    match tokens with
    | .blockEnd :: rest => some (done, anchors, rest)
    | .key :: rest =>
      match readUnless? handles (endsMember rest.head?) true true room anchors rest with
      | none => none
      | some (key, anchors, rest) =>
        match readValue? handles room anchors rest with
        | none => none
        | some (value, anchors, rest) =>
          match addMember? done key value with
          | some done => readMembers? handles room done anchors rest
          | none => none
    | _ => none
termination_by structural room => room

/-- The value behind a key in a table of lines; it may be missing. -/
def readValue? (handles : Handles) : Nat → Anchors → List Token → Found SettingsTree
  | 0, _, _ => none
  | room + 1, anchors, tokens =>
    match tokens with
    | .value :: rest => readUnless? handles (endsMember rest.head?) true true room anchors rest
    | _ => some (null, anchors, tokens)
termination_by structural room => room

/-- The items of a list between brackets up to its end; a key in it begins a table with that key
alone. -/
def readFlowItems? (handles : Handles) (first : Bool) :
    Nat → Anchors → List Token → Found (List SettingsTree)
  | 0, _, _ => none
  | room + 1, anchors, tokens =>
    if tokens.head? = some .closeList then some ([], anchors, tokens.tail)
    else
      match dropComma? first tokens with
      | none => none
      | some (.closeList :: rest) => some ([], anchors, rest)
      | some (.key :: rest) =>
        match readFlowMember? handles room [] anchors rest with
        | none => none
        | some (t, anchors, rest) =>
          (readFlowItems? handles false room anchors rest).map fun (vs, found) =>
            (treeOf t :: vs, found)
      | some tokens =>
        match readNode? handles false false room anchors tokens with
        | none => none
        | some (v, anchors, rest) =>
          (readFlowItems? handles false room anchors rest).map fun (vs, found) => (v :: vs, found)
termination_by structural room => room

/-- The members of a table between braces up to its end, behind those read; a value may be
missing. -/
def readFlowMembers? (handles : Handles) (first : Bool) :
    Nat → Table → Anchors → List Token → Found Table
  | 0, _, _, _ => none
  | room + 1, done, anchors, tokens =>
    if tokens.head? = some .closeTable then some (done, anchors, tokens.tail)
    else
      match dropComma? first tokens with
      | none => none
      | some (.closeTable :: rest) => some (done, anchors, rest)
      | some (.key :: rest) =>
        match readFlowMember? handles room done anchors rest with
        | none => none
        | some (done, anchors, rest) => readFlowMembers? handles false room done anchors rest
      | some tokens =>
        match readNode? handles false false room anchors tokens with
        | none => none
        | some (key, anchors, rest) =>
          match addMember? done key null with
          | some done => readFlowMembers? handles false room done anchors rest
          | none => none
termination_by structural room => room

/-- The member between brackets or braces behind the mark of its key, and those read before. -/
def readFlowMember? (handles : Handles) : Nat → Table → Anchors → List Token → Found Table
  | 0, _, _, _ => none
  | room + 1, done, anchors, tokens =>
    match readNode? handles false false room anchors tokens with
    | none => none
    | some (key, anchors, rest) =>
      let value :=
        match rest with
        | .value :: rest => readUnless? handles (endsFlow rest.head?) false false room anchors rest
        | _ => some (null, anchors, rest)
      match value with
      | none => none
      | some (value, anchors, rest) =>
        (addMember? done key value).map fun done => (done, anchors, rest)
termination_by structural room => room

/-- The node at the front of tokens, or null when it is missing. -/
def readUnless? (handles : Handles) (missing block flat : Bool) :
    Nat → Anchors → List Token → Found SettingsTree
  | 0, _, _ => none
  | room + 1, anchors, tokens =>
    if missing then some (null, anchors, tokens)
    else readNode? handles block flat room anchors tokens
termination_by structural room => room

end

/-! ## Documents -/

/-- The directives at the front of tokens: what handles stand for, and what follows. There may be
one version at most, and every handle is declared once. -/
def readDirectives? (version : Bool) (handles : Handles) :
    List Token → Option (Handles × List Token)
  | .directive .version :: rest => if version then none else readDirectives? true handles rest
  | .directive (.handle name meaning) :: rest =>
    if (handle? handles name).isSome then none
    else readDirectives? version ((name, meaning) :: handles) rest
  | tokens => some (handles, tokens)

/-- A document begins with its own mark or a directive. -/
def beginsOutright : Option Token → Bool
  | some (.directive _) => true
  | some .documentStart => true
  | _ => false

/-- A document has nothing behind its mark. -/
def endsDocument : Option Token → Bool
  | none => true
  | some .documentEnd => true
  | token => beginsOutright token

/-- The document at the front of tokens, and what follows it. Where its mark is `optional`, it may
begin without one. -/
def readDocument? (room : Nat) (optional : Bool) (tokens : List Token) :
    Option (SettingsTree × List Token) :=
  let node (handles : Handles) (tokens : List Token) : Option (SettingsTree × List Token) :=
    (readNode? handles true false room #[] tokens).map fun (v, _, rest) => (v, rest)
  if optional && !beginsOutright tokens.head? then node [] tokens
  else
    match readDirectives? false [] tokens with
    | some (handles, .documentStart :: rest) =>
      if endsDocument rest.head? then some (null, rest) else node handles rest
    | _ => none

/-- The documents of tokens, which are fewer than `count`. A directive needs the mark that ends a
document before it. -/
def readDocuments? (room : Nat) : Nat → Bool → List Token → Option (List SettingsTree)
  | 0, _, _ => none
  | count + 1, optional, tokens =>
    match tokens.dropWhile (· == .documentEnd) with
    | [] => some []
    | tokens =>
      match readDocument? room optional tokens with
      | none => none
      | some (v, .documentEnd :: rest) => (readDocuments? room count true rest).map (v :: ·)
      | some (_, .directive _ :: _) => none
      | some (v, rest) => (readDocuments? room count false rest).map (v :: ·)

/-- The tree of a YAML text, which ends before a null character. -/
def read? (source : String) : Option SettingsTree :=
  match tokens? (source.toList.takeWhile (· ≠ '\x00')) with
  | none => none
  | some tokens =>
    match readDocuments? (4 * tokens.length + 8) (tokens.length + 1) true tokens with
    | some [] => some (table [])
    | some [v] => some v
    | _ => none

end PlumeForm.SettingsTree.Yaml
