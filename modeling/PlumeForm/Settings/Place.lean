import PlumeForm.Settings.Tree
import PlumeForm.Text.Unsigned

/-!
# Places in settings, as text

A place is written as names with points between them and indices in brackets: `help_window.width`,
`list[0]`, and `list[-1]` for the last item. A name has letters and digits of ASCII, spaces,
underscores and hyphens; case does not count.
-/

namespace PlumeForm.SettingsTree

/-- A character of a name. -/
def isNameChar (c : Char) : Bool :=
  c.isAlphanum || c == ' ' || c == '_' || c == '-'

/-- The index between brackets, and what follows them; spaces may stand around it. It is a whole
number of 64 bits, with a minus when it counts from the end. -/
def readIndex? (cs : List Char) : Option (Int × List Char) :=
  let isSpace (c : Char) : Bool := c == ' ' || c == '\t'
  let cs := cs.dropWhile isSpace
  let (minus, cs) := if cs.head? = some '-' then (true, cs.drop 1) else (false, cs)
  let (digits, rest) := cs.span Char.isDigit
  match Text.readDigits? digits, rest.dropWhile isSpace with
  | some n, ']' :: rest =>
    if minus then if n ≤ 2 ^ 63 then some (-n, rest) else none
    else if n < 2 ^ 63 then some (n, rest)
    else none
  | _, _ => none

/-- A name at the front of a text, and what follows it. -/
def readName? (cs : List Char) : Option (String × List Char) :=
  let (name, rest) := cs.span isNameChar
  if name = [] then none else some (String.ofList name, rest)

/-- The steps that a text goes on with; there are at most as many as it has characters. -/
def readSteps? : Nat → List Char → Option (List Step)
  | _, [] => some []
  | 0, _ :: _ => none
  | room + 1, '.' :: cs =>
    match readName? cs with
    | some (name, rest) => (readSteps? room rest).map (.name name :: ·)
    | none => none
  | room + 1, '[' :: cs =>
    match readIndex? cs with
    | some (index, rest) => (readSteps? room rest).map (.item index :: ·)
    | none => none
  | _ + 1, _ :: _ => none

/-- The place that a text denotes. -/
def readPlace? (text : String) : Option (List Step) :=
  match readName? text.toList with
  | some (name, rest) => (readSteps? rest.length rest).map (.name name :: ·)
  | none => none

/-- The place of a key: the one that it denotes in small letters, or else a name as it stands. -/
def placeOf (key : String) : List Step :=
  (readPlace? (smallName key)).getD [.name key]

/-- The tree with the keys of a layer laid over it. -/
def layKeys (tree : SettingsTree) (keys : Members) : SettingsTree :=
  keys.foldl (fun tree m => layAt m.2 (placeOf m.1) tree) tree

end PlumeForm.SettingsTree
