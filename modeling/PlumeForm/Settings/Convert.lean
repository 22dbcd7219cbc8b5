import PlumeForm.Settings
import PlumeForm.Settings.Tree
import PlumeForm.Decimal.Writer

/-!
# Settings from a tree

A value in a tree is converted to the type that is wanted: texts, numbers and truth values stand
in for each other where that makes sense. A record is a table, or a list of its fields in order.
What is missing has its default, and names that mean nothing are passed over.
-/

namespace PlumeForm

namespace SettingsTree

/-- A truth value that a word means. -/
def wordFlag? (s : String) : Option Bool :=
  let word := smallName s
  if word = "true" ∨ word = "on" ∨ word = "yes" then some true
  else if word = "false" ∨ word = "off" ∨ word = "no" then some false
  else none

/-- A truth value; a number is true unless it is 0. -/
def toBool? : SettingsTree → Option Bool
  | bool b => some b
  | integer z => some (z != 0)
  | real x => some (x != 0.0)
  | text s => if s = "1" then some true else if s = "0" then some false else wordFlag? s
  | _ => none

/-- A double; true is 1. -/
def toFloat? : SettingsTree → Option Float
  | real x => some x
  | integer z => some (Float.ofInt z)
  | bool b => some (if b then 1.0 else 0.0)
  | text s =>
    match wordFlag? s with
    | some b => some (if b then 1.0 else 0.0)
    | none => Decimal.read? s.toList
  | _ => none

/-- A text; numbers and truth values are written out. -/
def toText? : SettingsTree → Option String
  | text s => some s
  | bool b => some (if b then "true" else "false")
  | integer z => some (toString z)
  | real x => some (Decimal.fieldText x)
  | _ => none

/-- The whole number nearest to a double; below 0, and for no number, it is 0. -/
def wholeOf? (x : Float) : Option Nat :=
  if x.isInf && !Decimal.isNegative x then none else some (Decimal.roundHalfAway x).toNat

/-- A whole number from 0. -/
def toNat? : SettingsTree → Option Nat
  | integer (.ofNat n) => some n
  | real x => wholeOf? x
  | bool b => some (if b then 1 else 0)
  | text s =>
    match wordFlag? s with
    | some b => some (if b then 1 else 0)
    | none => Text.readUnsigned? s.toList
  | _ => none

/-- A whole number of 32 bits. -/
def toUInt32? (value : SettingsTree) : Option UInt32 :=
  match value.toNat? with
  | some n => if n < 2 ^ 32 then some (UInt32.ofNat n) else none
  | none => none

/-- A value that may be missing. -/
def toOption? {α : Type} (read : SettingsTree → Option α) : SettingsTree → Option (Option α)
  | null => some none
  | value => (read value).map some

/-- One of a few words in any case: the word itself, or a table with the word as its only name. -/
def toWord? {α : Type} (all : List α) (name : α → String) : SettingsTree → Option α
  | text s => all.find? fun a => name a == smallName s
  | table [(s, _)] => all.find? fun a => name a == smallName s
  | _ => none

/-- The fields of a record, by place and name. -/
def fields? : SettingsTree → Option (Nat → String → Option SettingsTree)
  | table members => some fun _ name => find? members name
  | list items => some fun place _ => items[place]?
  | _ => none

/-- A field with a default. -/
def fieldOr {α : Type} (field : Option SettingsTree) (default : α)
    (convert : SettingsTree → Option α) : Option α :=
  match field with
  | some value => convert value
  | none => some default

end SettingsTree

open SettingsTree

/-- The paths that a tree says. -/
def EndpointPaths.ofTree? (tree : SettingsTree) : Option EndpointPaths := do
  let base : EndpointPaths := {}
  let field ← tree.fields?
  let runParams ← fieldOr (field 0 "run_params_script") base.runParamsScript toText?
  let ashxpOptions ← fieldOr (field 1 "ashxp_options_script") base.ashxpOptionsScript toText?
  let mapOptions ← fieldOr (field 2 "map_options_script") base.mapOptionsScript toText?
  let placeholder ← fieldOr (field 3 "placeholder_image") base.placeholderImage toText?
  return ⟨runParams, ashxpOptions, mapOptions, placeholder⟩

/-- The window features that a tree says. -/
def WindowFeatures.ofTree? (tree : SettingsTree) : Option WindowFeatures := do
  let field ← tree.fields?
  let toolbar ← fieldOr (field 0 "toolbar") help.toolbar toBool?
  let width ← fieldOr (field 1 "width") help.width (toOption? toUInt32?)
  let height ← fieldOr (field 2 "height") help.height (toOption? toUInt32?)
  let scrollbars ← fieldOr (field 3 "scrollbars") help.scrollbars toBool?
  return ⟨toolbar, width, height, scrollbars⟩

/-- The settings that a tree says. -/
def Settings.ofTree? (tree : SettingsTree) : Option Settings := do
  let base : Settings := {}
  let field ← tree.fields?
  let endpoints ← fieldOr (field 0 "endpoints") base.endpoints EndpointPaths.ofTree?
  let runParamsForm ← fieldOr (field 1 "run_params_form") base.runParamsForm toText?
  let helpWindowName ← fieldOr (field 2 "help_window_name") base.helpWindowName toText?
  let helpWindow ← fieldOr (field 3 "help_window") base.helpWindow WindowFeatures.ofTree?
  let volcanoList ← fieldOr (field 4 "volcano_list") base.volcanoList (toOption? toText?)
  let defaultArea ← fieldOr (field 5 "default_area") base.defaultArea toFloat?
  let check ←
    fieldOr (field 6 "eruption_date_check") base.eruptionDateCheck
      (toWord? DateCheck.all DateCheck.name)
  let normalize ← fieldOr (field 7 "normalize_eruption_dates") base.normalizeEruptionDates toBool?
  return ⟨endpoints, runParamsForm, helpWindowName, helpWindow, volcanoList, defaultArea, check,
    normalize⟩

end PlumeForm
