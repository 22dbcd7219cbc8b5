/-!
# Controls of the forms

The run form and the ash cloud form name their controls with fourteen fixed words. The order in
which they are listed here is the order in which a form shows them.
-/

namespace PlumeForm

/-- A named control of the run form or of the ash cloud form. -/
inductive Field where
  | volc
  | lat
  | lon
  | plumeMin
  | area
  | eruptDate
  | runHours
  | eruptHours
  | saveHours
  | phiDist
  | ashLogMean
  | ashLogSdev
  | image
  | previous
deriving DecidableEq, Repr

namespace Field

/-- Every control, in order. -/
def all : List Field :=
  [volc, lat, lon, plumeMin, area, eruptDate, runHours, eruptHours, saveHours, phiDist,
    ashLogMean, ashLogSdev, image, previous]

/-- The controls of the run form. -/
def runControls : List Field :=
  [lat, lon, plumeMin, area, eruptDate, runHours, eruptHours, saveHours, phiDist, ashLogMean,
    ashLogSdev]

/-- The word by which a page names the control. -/
def name : Field → String
  | volc => "volc"
  | lat => "lat"
  | lon => "lon"
  | plumeMin => "plumeMin"
  | area => "area"
  | eruptDate => "eruptDate"
  | runHours => "runHours"
  | eruptHours => "eruptHours"
  | saveHours => "saveHours"
  | phiDist => "phiDist"
  | ashLogMean => "ashLogMean"
  | ashLogSdev => "ashLogSdev"
  | image => "image"
  | previous => "previous"

/-- The control that a word names; case counts. -/
def ofName? (word : String) : Option Field :=
  all.find? (·.name == word)

/-- The controls in order, each as often as it is given. -/
def sort (fields : List Field) : List Field :=
  all.flatMap fun f => fields.filter (· == f)

theorem ofName?_name (f : Field) : ofName? f.name = some f := by cases f <;> decide

end Field

end PlumeForm
