import PlumeForm.Files
import PlumeForm.Settings.Convert
import PlumeForm.Settings.Environment
import PlumeForm.Settings.Format
import PlumeForm.Settings.Place
import PlumeForm.Text.Utf8

/-!
# Loading settings

Settings come in layers: the defaults, then a file in one of the formats, then the environment. A
file that is missing, or whose extension says no format, says nothing. Where no layer names a
volcano list, the variable `PUFF_VOLCANO_LIST` does, unless it is white space.
-/

namespace PlumeForm

/-- Why settings cannot be loaded. -/
inductive SettingsError where
  /-- The file is not in its format. -/
  | unreadable (path : String)
  /-- A value does not fit its type. -/
  | invalid
deriving DecidableEq, Repr

/-- The wording of the failure. -/
def SettingsError.message : SettingsError → String
  | unreadable path => "failed to read settings from '" ++ path ++ "'"
  | invalid => "invalid webpuff settings"

namespace Settings

/-- The file that holds the settings when no other is named. -/
def defaultFile : String := "webpuff.toml"

/-- The variable that names a volcano list when the settings do not. -/
def volcanoListVariable : String := "PUFF_VOLCANO_LIST"

/-- A path written backwards, from its last name on: without the slashes, and the names that lead
nowhere new, at its end. -/
def dropStays : List Char → List Char
  | '/' :: cs => dropStays cs
  | '.' :: '/' :: cs => dropStays cs
  | cs => cs

/-- The path up to the end of its last name. -/
def upToName (path : String) : String :=
  String.ofList (dropStays path.toList.reverse).reverse

/-- The files that a path without an extension may mean, each with its format. -/
def filesNamed (path : String) : List (String × SettingsFormat) :=
  SettingsFormat.byExtension.map fun e => (upToName path ++ "." ++ e.1, e.2)

/-- The settings file that a path means, and its format: the file at the path, or else one with an
extension added. -/
def file? (files : Files) (path : String) : Option (String × SettingsFormat) :=
  if files.isFile path then
    ((Files.extension? path).bind SettingsFormat.ofExtension?).map fun f => (path, f)
  else if (Files.lastName? path).isNone then none
  else
    (filesNamed path).find? fun c => files.isFile c.1

/-- The keys that the file at a path sets. -/
def fileKeys (files : Files) (path : String) : Except SettingsError SettingsTree.Members :=
  match file? files path with
  | none => .ok []
  | some (found, format) =>
    match files.bytes? found with
    | none => .ok []
    | some bytes =>
      match format.read? (Text.Utf8.textOf bytes) with
      | some keys => .ok keys
      | none => .error (.unreadable path)

/-- The volcano list of the environment. -/
def fallbackList (env : Environment) : Option String :=
  (env.value? volcanoListVariable).filter fun value => !Text.isBlankText value.toList

/-- Settings with a volcano list for the case that they name none. -/
def withFallback (settings : Settings) (list : Option String) : Settings :=
  { settings with volcanoList := settings.volcanoList.or list }

/-- The tree of all layers. -/
def layers (file : SettingsTree.Members) (env : Environment) : SettingsTree :=
  ((SettingsTree.table []).layKeys file).layKeys env.keys

/-- The settings of a file and an environment. -/
def load (files : Files) (env : Environment) (path : String) : Except SettingsError Settings :=
  match fileKeys files path with
  | .error e => .error e
  | .ok file =>
    match Settings.ofTree? (layers file env) with
    | some settings => .ok (settings.withFallback (fallbackList env))
    | none => .error .invalid

end Settings

end PlumeForm
