import PlumeForm.Settings.Tree
import PlumeForm.Decimal.Reader
import PlumeForm.Text.Signed

/-!
# What scalars of YAML mean

A plain scalar is null, a truth value, a whole number of 64 bits, a double or a text, as it is
written; with a tag of a core type it is of that type, or null where it cannot be. Every other
scalar is a text. The doubles without a numeral fit no setting.
-/

namespace PlumeForm.SettingsTree.Yaml

/-- The tag of a node: what its handle stands for, and its suffix. -/
structure Tag where
  space : String
  suffix : String
deriving DecidableEq, Repr

/-- What the handle `!!` stands for. -/
def coreSpace : String := "tag:yaml.org,2002:"

/-- The words for the doubles without a numeral. -/
def boundless : List String :=
  [".inf", ".Inf", ".INF", "+.inf", "+.Inf", "+.INF", "-.inf", "-.Inf", "-.INF", ".nan", ".NaN",
    ".NAN"]

/-- The double of a numeral, which has a digit. -/
def numeral? (cs : List Char) : Option Float :=
  if cs.any Char.isDigit then Decimal.read? cs else none

/-- The whole number of 64 bits that a plain scalar writes. -/
def whole? (cs : List Char) : Option Int :=
  let other :=
    match cs with
    | '0' :: 'x' :: cs => Text.readSigned? 16 cs
    | '0' :: 'o' :: cs => Text.readSigned? 8 cs
    | '+' :: cs => Text.readSigned? 10 cs
    | _ => none
  other.or (Text.readSigned? 10 cs)

/-- The truth value of a word. -/
def flag? (s : String) : Option Bool :=
  if s = "true" then some true else if s = "false" then some false else none

/-- What a plain scalar means. -/
def plainValue? (s : String) : Option SettingsTree :=
  if s = "" ∨ s = "~" ∨ s = "null" then some .null
  else if boundless.contains s then none
  else
    match flag? s, whole? s.toList, numeral? s.toList with
    | some b, _, _ => some (.bool b)
    | none, some z, _ => some (.integer z)
    | none, none, some x => some (.real x)
    | none, none, none => some (.text s)

/-- What a plain scalar means as a value of a core type. -/
def typedValue? (type s : String) : Option SettingsTree :=
  if type = "bool" then some ((flag? s).elim .null .bool)
  else if type = "int" then some ((Text.readSigned? 10 s.toList).elim .null .integer)
  else if type = "float" then
    if boundless.contains s then none else some ((numeral? s.toList).elim .null .real)
  else if type = "null" then some .null
  else some (.text s)

/-- What a scalar means. -/
def scalarValue? (tag : Option Tag) (plain : Bool) (s : String) : Option SettingsTree :=
  if !plain then some (.text s)
  else
    match tag with
    | none => plainValue? s
    | some t => if t.space = coreSpace then typedValue? t.suffix s else some (.text s)

end PlumeForm.SettingsTree.Yaml
