/-!
# TOML values

The values of a configuration text. A date or a time is kept in its written form. The members of a
table have distinct names and stand in the order of their first mention.
-/

namespace PlumeForm

/-- A value of TOML. -/
inductive Toml where
  | text (s : String)
  | integer (z : Int)
  | real (x : Float)
  | bool (b : Bool)
  /-- A date, a time or both. -/
  | moment (shown : String)
  | list (items : List Toml)
  | table (members : List (String × Toml))
deriving Repr

namespace Toml

/-- The member of that name. -/
def member? (members : List (String × Toml)) (name : String) : Option Toml :=
  (members.find? fun m => m.1 == name).map (·.2)

/-- The text of a value that is one. -/
def toText? : Toml → Option String
  | text s => some s
  | _ => none

/-- The number of a value that is one; whole numbers count. -/
def toFloat? : Toml → Option Float
  | integer z => some (Float.ofInt z)
  | real x => some x
  | _ => none

/-- The items of a value that is a list. -/
def toList? {α : Type} (read : Toml → Option α) : Toml → Option (List α)
  | list items => items.mapM read
  | _ => none

/-- A control that no text may hold: all but the tab. -/
def isControl (c : Char) : Bool :=
  (c.toNat < 0x20 && c != '\t') || c.toNat == 0x7F

/-- White space inside a line. -/
def isGap (c : Char) : Bool :=
  c == ' ' || c == '\t'

/-- The text without the white space at its front. -/
def skipGaps (cs : List Char) : List Char :=
  cs.dropWhile isGap

end Toml

end PlumeForm
