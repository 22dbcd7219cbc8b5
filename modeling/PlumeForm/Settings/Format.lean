import PlumeForm.Json.Reader
import PlumeForm.Json5.Reader
import PlumeForm.Settings.Ini
import PlumeForm.Settings.Ron.Reader
import PlumeForm.Settings.Yaml.Reader
import PlumeForm.Toml.Reader

/-!
# Formats of settings files

A settings file is in one of six formats, which its extension tells. Each format yields the same
kind of tree; a file whose root is no table is not in its format.
-/

namespace PlumeForm

namespace SettingsTree

mutual

/-- The tree of a TOML value. -/
def ofToml : Toml → SettingsTree
  | .text s => text s
  | .integer z => integer z
  | .real x => real x
  | .bool b => bool b
  | .moment shown => text shown
  | .list items => list (ofTomlItems items)
  | .table members => table (ofTomlMembers members)

/-- The trees of TOML items. -/
def ofTomlItems : List Toml → List SettingsTree
  | [] => []
  | v :: vs => ofToml v :: ofTomlItems vs

/-- The trees of TOML members. -/
def ofTomlMembers : List (String × Toml) → Members
  | [] => []
  | (n, v) :: ms => (n, ofToml v) :: ofTomlMembers ms

end

/-- The tree of a number; whole numbers beyond 63 bits and a sign are doubles. -/
def ofNumber : JsonNumber → SettingsTree
  | .integer z => if z < 2 ^ 63 then integer z else real (Float.ofInt z)
  | .real x => real x

mutual

/-- The tree of a JSON value. -/
def ofJson : Json → SettingsTree
  | .null => null
  | .bool b => bool b
  | .number n => ofNumber n
  | .text s => text s
  | .list items => list (ofJsonItems items)
  | .object members => table (ofJsonMembers members)

/-- The trees of JSON items. -/
def ofJsonItems : List Json → List SettingsTree
  | [] => []
  | v :: vs => ofJson v :: ofJsonItems vs

/-- The trees of JSON members. -/
def ofJsonMembers : List (String × Json) → Members
  | [] => []
  | (n, v) :: ms => (n, ofJson v) :: ofJsonMembers ms

end

end SettingsTree

/-- A format of settings files. -/
inductive SettingsFormat where
  | toml
  | json
  | yaml
  | ini
  | ron
  | json5
deriving DecidableEq, Repr

namespace SettingsFormat

/-- Every format, in the order in which extensions are tried. -/
def all : List SettingsFormat := [toml, json, yaml, ini, ron, json5]

/-- The extensions of files in the format. -/
def extensions : SettingsFormat → List String
  | toml => ["toml"]
  | json => ["json"]
  | yaml => ["yaml", "yml"]
  | ini => ["ini"]
  | ron => ["ron"]
  | json5 => ["json5"]

/-- Every extension with its format, in the order in which they are tried. -/
def byExtension : List (String × SettingsFormat) :=
  all.flatMap fun f => f.extensions.map fun e => (e, f)

/-- The format of an extension; case counts. -/
def ofExtension? (e : String) : Option SettingsFormat :=
  (byExtension.find? fun entry => entry.1 == e).map (·.2)

/-- The tree of a text in the format. -/
def readTree? : SettingsFormat → String → Option SettingsTree
  | toml, text => (Toml.read? text).map fun members => .table (SettingsTree.ofTomlMembers members)
  | json, text => (Json.read? text).map SettingsTree.ofJson
  | yaml, text => SettingsTree.Yaml.read? text
  | ini, text => (SettingsTree.Ini.read? text).map .table
  | ron, text => SettingsTree.Ron.read? text
  | json5, text => (Json5.read? text).map SettingsTree.ofJson

/-- The keys of a text in the format, whose root must be a table. -/
def read? (format : SettingsFormat) (text : String) : Option SettingsTree.Members :=
  match format.readTree? text with
  | some (.table members) => some members
  | _ => none

end SettingsFormat

end PlumeForm
