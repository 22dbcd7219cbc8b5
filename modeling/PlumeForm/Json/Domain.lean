import PlumeForm.Json.Record
import PlumeForm.Settings
import PlumeForm.Volcano

/-!
# The form's data in JSON

Every type that is exchanged has a written form (`toJson`) and a reader (`ofJson?`). A location, a
window name and window features are left out when there is none; the other optional values are then
`null`. Absent endpoints, features and settings have their defaults.
-/

namespace PlumeForm

namespace Field

/-- The name of the control. -/
def toJson (f : Field) : Json := .text f.name

/-- The control of a name. -/
def ofJson? : Json → Option Field :=
  Json.toWord? all name

end Field

namespace ErrorCode

/-- The word of the class. -/
def toJson (c : ErrorCode) : Json := .text c.name

/-- The class of a word. -/
def ofJson? : Json → Option ErrorCode :=
  Json.toWord? all name

end ErrorCode

namespace DateCheck

/-- The word of the check. -/
def toJson (c : DateCheck) : Json := .text c.name

/-- The check of a word. -/
def ofJson? : Json → Option DateCheck :=
  Json.toWord? all name

end DateCheck

namespace ErrorReport

/-- The report as a record. -/
def toJson (r : ErrorReport) : Json :=
  .object [("code", r.code.toJson), ("message", .text r.message)]

/-- The report of a record. -/
def ofJson? (value : Json) : Option ErrorReport := do
  let record ← Record.ofJson? 2 value
  let code ← record.required 0 "code" ErrorCode.ofJson?
  let message ← record.required 1 "message" Json.toText?
  return ⟨code, message⟩

end ErrorReport

namespace Volcano

/-- The location member, when there is a location. -/
def locationMember : Option String → List (String × Json)
  | some s => [("location", .text s)]
  | none => []

/-- The volcano as a record. -/
def toJson (v : Volcano) : Json :=
  .object
    (("name", .text v.name) :: locationMember v.location ++
      [("lat", .ofFloat v.lat), ("lon", .ofFloat v.lon), ("plume_min", .ofFloat v.plumeMin),
        ("area", .ofFloat v.area)])

/-- The volcano of a record. -/
def ofJson? (value : Json) : Option Volcano := do
  let record ← Record.ofJson? 6 value
  let name ← record.required 0 "name" Json.toText?
  let location ← record.optional 1 "location" none (Json.toOption? Json.toText?)
  let lat ← record.required 2 "lat" Json.toFloat?
  let lon ← record.required 3 "lon" Json.toFloat?
  let plumeMin ← record.required 4 "plume_min" Json.toFloat?
  let area ← record.required 5 "area" Json.toFloat?
  return ⟨name, location, lat, lon, plumeMin, area⟩

end Volcano

namespace VolcanoTable

/-- The table as a record with one list. -/
def toJson (t : VolcanoTable) : Json :=
  .object [("volcano", .list (t.entries.map Volcano.toJson))]

/-- The table of a record; the list may be absent. -/
def ofJson? (value : Json) : Option VolcanoTable := do
  let record ← Record.ofJson? 1 value
  let entries ← record.optional 0 "volcano" [] (Json.toList? Volcano.ofJson?)
  return ⟨entries⟩

end VolcanoTable

namespace EndpointPaths

/-- The paths as a record. -/
def toJson (p : EndpointPaths) : Json :=
  .object
    [("run_params_script", .text p.runParamsScript),
      ("ashxp_options_script", .text p.ashxpOptionsScript),
      ("map_options_script", .text p.mapOptionsScript),
      ("placeholder_image", .text p.placeholderImage)]

/-- The paths of a record, each with its default. -/
def ofJson? (value : Json) : Option EndpointPaths := do
  let base : EndpointPaths := {}
  let record ← Record.ofJson? 4 value
  let runParams ← record.optional 0 "run_params_script" base.runParamsScript Json.toText?
  let ashxpOptions ← record.optional 1 "ashxp_options_script" base.ashxpOptionsScript Json.toText?
  let mapOptions ← record.optional 2 "map_options_script" base.mapOptionsScript Json.toText?
  let placeholder ← record.optional 3 "placeholder_image" base.placeholderImage Json.toText?
  return ⟨runParams, ashxpOptions, mapOptions, placeholder⟩

end EndpointPaths

namespace WindowFeatures

/-- A size, or `null`. -/
def sizeJson : Option UInt32 → Json
  | some n => .ofNat n.toNat
  | none => .null

/-- The features as a record. -/
def toJson (f : WindowFeatures) : Json :=
  .object
    [("toolbar", .bool f.toolbar), ("width", sizeJson f.width), ("height", sizeJson f.height),
      ("scrollbars", .bool f.scrollbars)]

/-- The features of a record, each with the default of the help window. -/
def ofJson? (value : Json) : Option WindowFeatures := do
  let record ← Record.ofJson? 4 value
  let toolbar ← record.optional 0 "toolbar" help.toolbar Json.toBool?
  let width ← record.optional 1 "width" help.width (Json.toOption? Json.toUInt32?)
  let height ← record.optional 2 "height" help.height (Json.toOption? Json.toUInt32?)
  let scrollbars ← record.optional 3 "scrollbars" help.scrollbars Json.toBool?
  return ⟨toolbar, width, height, scrollbars⟩

end WindowFeatures

namespace WindowRequest

/-- The member of the name, when there is a name. -/
def nameMember : Option String → List (String × Json)
  | some s => [("name", .text s)]
  | none => []

/-- The member of the features, when there are any. -/
def featuresMember : Option WindowFeatures → List (String × Json)
  | some f => [("features", f.toJson)]
  | none => []

/-- The request as a record. -/
def toJson (r : WindowRequest) : Json :=
  .object (("url", .text r.url) :: nameMember r.name ++ featuresMember r.features)

/-- The request of a record. -/
def ofJson? (value : Json) : Option WindowRequest := do
  let record ← Record.ofJson? 3 value
  let url ← record.required 0 "url" Json.toText?
  let name ← record.optional 1 "name" none (Json.toOption? Json.toText?)
  let features ← record.optional 2 "features" none (Json.toOption? WindowFeatures.ofJson?)
  return ⟨url, name, features⟩

end WindowRequest

namespace Settings

/-- The settings as a record. -/
def toJson (s : Settings) : Json :=
  .object
    [("endpoints", s.endpoints.toJson),
      ("run_params_form", .text s.runParamsForm),
      ("help_window_name", .text s.helpWindowName),
      ("help_window", s.helpWindow.toJson),
      ("volcano_list", .ofText? s.volcanoList),
      ("default_area", .ofFloat s.defaultArea),
      ("eruption_date_check", s.eruptionDateCheck.toJson),
      ("normalize_eruption_dates", .bool s.normalizeEruptionDates)]

/-- The settings of a record, each with its default. -/
def ofJson? (value : Json) : Option Settings := do
  let base : Settings := {}
  let record ← Record.ofJson? 8 value
  let endpoints ← record.optional 0 "endpoints" base.endpoints EndpointPaths.ofJson?
  let runParamsForm ← record.optional 1 "run_params_form" base.runParamsForm Json.toText?
  let helpWindowName ← record.optional 2 "help_window_name" base.helpWindowName Json.toText?
  let helpWindow ← record.optional 3 "help_window" base.helpWindow WindowFeatures.ofJson?
  let volcanoList ← record.optional 4 "volcano_list" base.volcanoList (Json.toOption? Json.toText?)
  let defaultArea ← record.optional 5 "default_area" base.defaultArea Json.toFloat?
  let check ← record.optional 6 "eruption_date_check" base.eruptionDateCheck DateCheck.ofJson?
  let normalize ←
    record.optional 7 "normalize_eruption_dates" base.normalizeEruptionDates Json.toBool?
  return ⟨endpoints, runParamsForm, helpWindowName, helpWindow, volcanoList, defaultArea, check,
    normalize⟩

end Settings

end PlumeForm
