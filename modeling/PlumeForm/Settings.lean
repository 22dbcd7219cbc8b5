import PlumeForm.Endpoint
import PlumeForm.WindowFeatures
import PlumeForm.EruptionDate

/-!
# Settings

What a site can choose about the form. Every choice has a default.
-/

namespace PlumeForm

/-- How an eruption date is checked. -/
inductive DateCheck where
  /-- It must have sixteen characters. -/
  | length
  /-- It must also denote an existing time. -/
  | strict
deriving DecidableEq, Repr

namespace DateCheck

/-- Every check. -/
def all : List DateCheck := [length, strict]

/-- The word for the check. -/
def name : DateCheck → String
  | length => "length"
  | strict => "strict"

/-- The text passes the check. -/
def accepts : DateCheck → String → Bool
  | length, value => EruptionDate.hasCanonicalLength value
  | strict, value => (EruptionDate.parse? value).isSome

end DateCheck

/-- The choices of a site. -/
structure Settings where
  endpoints : EndpointPaths := {}
  /-- The form of the parameter frame that names the directory of an earlier run. -/
  runParamsForm : String := "runParamsForm"
  helpWindowName : String := "helpWindow"
  helpWindow : WindowFeatures := WindowFeatures.help
  /-- The file that lists the volcanoes. -/
  volcanoList : Option String := none
  /-- The source area of volcanoes whose listing has none. -/
  defaultArea : Float := 0.0
  eruptionDateCheck : DateCheck := .length
  /-- Bring other spellings of a date into canonical form before it is checked. -/
  normalizeEruptionDates : Bool := false
deriving DecidableEq, Repr

end PlumeForm
