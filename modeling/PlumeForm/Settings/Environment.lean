import PlumeForm.Settings.Tree
import PlumeForm.Decimal.Reader
import PlumeForm.Text.Signed

/-!
# Settings in the environment

A variable whose name begins with `WEBPUFF__`, in any case, sets what the rest of its name says,
with a point for every double underscore. Its value is a truth value, a whole number of 64 bits, a
double, or else a text.
-/

namespace PlumeForm

/-- The variables of an environment. -/
abbrev Environment := List (String × String)

namespace Environment

/-- The value of a variable. -/
def value? (env : Environment) (name : String) : Option String :=
  (env.find? fun v => v.1 == name).map (·.2)

/-- How the names of settings begin, in small letters. -/
def front : String := "webpuff__"

/-- A text with a point for every double underscore. -/
def showPoints : List Char → List Char
  | '_' :: '_' :: rest => '.' :: showPoints rest
  | c :: rest => c :: showPoints rest
  | [] => []

/-- The key that the name of a variable says. -/
def keyOf? (name : String) : Option String :=
  let small := (SettingsTree.smallName name).toList
  if front.toList.isPrefixOf small then
    some (String.ofList (showPoints (small.drop front.length)))
  else none

/-- What the text of a variable means. -/
def treeOf (text : String) : SettingsTree :=
  let word := SettingsTree.smallName text
  if word = "true" then .bool true
  else if word = "false" then .bool false
  else
    match Text.readSigned? 10 text.toList with
    | some z => .integer z
    | none =>
      match Decimal.read? text.toList with
      | some x => .real x
      | none => .text text

/-- The keys that the environment sets. -/
def keys (env : Environment) : SettingsTree.Members :=
  env.filterMap fun v => (keyOf? v.1).map fun key => (key, treeOf v.2)

end Environment

end PlumeForm
