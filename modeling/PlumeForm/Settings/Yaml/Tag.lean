import PlumeForm.Settings.Yaml.Cursor
import PlumeForm.Text.Hex

/-!
# Tags and directives of YAML

A tag says the type of a node: `!<…>` in full, `!name` as one of this text only, and `!handle!name`
by a handle that a directive declares, where `!!` stands for the core types unless declared anew. A
directive is a line that begins with a percent sign.
-/

namespace PlumeForm.SettingsTree.Yaml

/-- A tag as it is written. -/
structure WrittenTag where
  handle : String
  suffix : String
deriving DecidableEq, Repr

/-- What a directive says. -/
inductive Directive where
  | version
  /-- What a handle stands for; a directive of another kind declares the empty handle. -/
  | handle (handle meaning : String)
deriving DecidableEq, Repr

/-! ## Characters -/

/-- A character of a handle. -/
def isHandleChar (c : Char) : Bool :=
  c.isAlphanum || c == '_' || c == '-'

/-- A character of a tag in full. -/
def isUriChar (c : Char) : Bool :=
  isHandleChar c || "#;/?:@&=+$,.!~*'()[]%".toList.contains c

/-- A character of a suffix. -/
def isSuffixChar (c : Char) : Bool :=
  isUriChar c && !isFlowMark c && c != '!'

/-- How many bytes a character has whose first byte is given. -/
def byteCount? (byte : Nat) : Option Nat :=
  if byte < 0x80 then some 1
  else if byte < 0xC0 then none
  else if byte < 0xE0 then some 2
  else if byte < 0xF0 then some 3
  else if byte < 0xF8 then some 4
  else none

/-- The bytes of an escaped character, of which so many are still to come, and what follows. The
character is the number with these bytes as its digits. -/
def readBytes? (number : Nat) : Nat → List Char → Option (Char × List Char)
  | 0, cs => if number.isValidChar then some (Char.ofNat number, cs) else none
  | count + 1, '%' :: a :: b :: rest =>
    if Text.isDigitOf 16 a ∧ Text.isDigitOf 16 b then
      let byte := Text.valueIn 16 [a, b]
      if 0x80 ≤ byte ∧ byte < 0xC0 then readBytes? (number * 0x100 + byte) count rest else none
    else none
  | _ + 1, _ => none

/-- The escaped character behind a percent sign, and what follows it. -/
def readEscaped? : List Char → Option (Char × List Char)
  | a :: b :: rest =>
    if Text.isDigitOf 16 a ∧ Text.isDigitOf 16 b then
      let byte := Text.valueIn 16 [a, b]
      match byteCount? byte with
      | some count => readBytes? byte (count - 1) rest
      | none => none
    else none
  | _ => none

/-- The characters of a class at the front of a text, and what follows them; there are fewer than
`room`. -/
def readUri? (p : Char → Bool) : Nat → List Char → Option (List Char × List Char)
  | 0, _ => none
  | _, [] => some ([], [])
  | room + 1, c :: rest =>
    if !p c then some ([], c :: rest)
    else if c = '%' then
      match readEscaped? rest with
      | some (x, rest) => (readUri? p room rest).map fun found => (x :: found.1, found.2)
      | none => none
    else (readUri? p room rest).map fun found => (c :: found.1, found.2)

/-! ## Tags -/

/-- The handle behind its exclamation mark, with that and the one that ends it if there is one, and
what follows it. -/
def readHandle (cs : List Char) : List Char × List Char :=
  let (name, rest) := cs.span isHandleChar
  match rest with
  | '!' :: rest => ('!' :: name ++ ['!'], rest)
  | rest => ('!' :: name, rest)

/-- The tag behind its exclamation mark, and what follows it. -/
def readTag? : List Char → Option (WrittenTag × List Char)
  | '<' :: cs =>
    match readUri? isUriChar (cs.length + 1) cs with
    | some (full, '>' :: rest) => some (⟨"", String.ofList full⟩, rest)
    | _ => none
  | cs =>
    let (handle, rest) := readHandle cs
    match readUri? isSuffixChar (rest.length + 1) rest with
    | none => none
    | some (suffix, rest) =>
      if 2 ≤ handle.length ∧ handle.getLast? = some '!' then
        if suffix = [] then none else some (⟨String.ofList handle, String.ofList suffix⟩, rest)
      else if handle.tail ++ suffix = [] then some (⟨"", "!"⟩, rest)
      else some (⟨"!", String.ofList (handle.tail ++ suffix)⟩, rest)

/-! ## Directives -/

/-- What follows a number of at most nine digits. -/
def skipNumber? (cs : List Char) : Option (List Char) :=
  let (digits, rest) := cs.span Char.isDigit
  if digits = [] ∨ 9 < digits.length then none else some rest

/-- What follows the numbers of a version. -/
def skipVersion? (cs : List Char) : Option (List Char) :=
  match skipNumber? (cs.dropWhile isGap) with
  | some ('.' :: rest) => skipNumber? rest
  | _ => none

/-- What a handle stands for, and what follows. -/
def readMeaning? : List Char → Option (List Char × List Char)
  | '!' :: cs => (readUri? isUriChar (cs.length + 1) cs).map fun p => ('!' :: p.1, p.2)
  | c :: cs => if isSuffixChar c then readUri? isUriChar (cs.length + 2) (c :: cs) else none
  | [] => none

/-- The declaration of a handle, and what follows it. -/
def readDeclaration? (cs : List Char) : Option (Directive × List Char) :=
  match cs.dropWhile isGap with
  | '!' :: cs =>
    let (handle, rest) := readHandle cs
    if handle ≠ ['!'] ∧ handle.getLast? ≠ some '!' then none
    else
      match readMeaning? (rest.dropWhile isGap) with
      | none => none
      | some (meaning, rest) =>
        if endsWord rest.head? then
          some (.handle (String.ofList handle) (String.ofList meaning), rest)
        else none
  | _ => none

/-- The directive behind its percent sign, and what follows it. -/
def readDirective? (cs : List Char) : Option (Directive × List Char) :=
  let (name, rest) := cs.span isHandleChar
  if name = [] ∨ !endsWord rest.head? then none
  else if name = "YAML".toList then (skipVersion? rest).map fun rest => (.version, rest)
  else if name = "TAG".toList then readDeclaration? rest
  else some (.handle "" "", rest.dropWhile fun c => !isBreak c)

end PlumeForm.SettingsTree.Yaml
