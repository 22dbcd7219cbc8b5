import PlumeForm.Settings.Yaml.Tag

/-!
# Tokens of YAML

A token is a mark, a scalar, or what is said about a node before it. Indentation shows as tokens
where a list or a table of lines begins and ends.
-/

namespace PlumeForm.SettingsTree.Yaml

/-- A token of YAML text. -/
inductive Token where
  | directive (d : Directive)
  | documentStart
  | documentEnd
  /-- A list of lines begins. -/
  | listStart
  /-- A table of lines begins. -/
  | tableStart
  /-- A list or a table of lines ends. -/
  | blockEnd
  | openList
  | closeList
  | openTable
  | closeTable
  | comma
  /-- The hyphen before an item. -/
  | item
  /-- A key follows. -/
  | key
  /-- A value follows. -/
  | value
  | alias (name : String)
  | anchor (name : String)
  | tag (written : WrittenTag)
  | scalar (plain : Bool) (content : String)
deriving DecidableEq, Repr

/-- The tokens with another one before the one at a place. -/
def insertToken (tokens : Array Token) (place : Nat) (token : Token) : Array Token :=
  (tokens.extract 0 place).push token ++ tokens.extract place tokens.size

end PlumeForm.SettingsTree.Yaml
