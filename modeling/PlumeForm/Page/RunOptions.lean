import PlumeForm.Page.Form
import PlumeForm.Event
import PlumeForm.Decimal.Reader
import PlumeForm.Text.Blank

/-!
# Run options

A run has a length, and so have the eruption and the saved part of it, none of which may exceed the
run. The particles are given either by one distribution or by the mean and deviation of another; the
first one wins. Everything is read and checked before anything is written.
-/

namespace PlumeForm.RunOptions

/-- The number of hours in a text; white space means that it is not given. -/
def readHours (field : Field) (text : String) : Except FormError (Option Float) :=
  let trimmed := Text.trim text.toList
  if trimmed = [] then .ok none
  else
    match Decimal.readFinite? trimmed with
    | some x => .ok (some x)
    | none => .error (.invalidNumber field text)

/-- Both are given, and the first one is less. -/
def isLess : Option Float → Option Float → Bool
  | some x, some y => x < y
  | _, _ => false

/-- The control gets a text when the condition holds, which is reported. -/
def writeWhen (condition : Bool) (field : Field) (text : String) : FormAction Bool := do
  if condition then FormAction.write field text
  return condition

/-- The particle distribution that is given second is emptied. -/
def separateDistributions (phiDist ashLogMean : String) : FormAction (Bool × Bool) := do
  if phiDist ≠ "" then
    FormAction.writeAll [(.ashLogMean, ""), (.ashLogSdev, "")]
    return (true, false)
  else return (false, ← writeWhen (ashLogMean ≠ "") .phiDist "")

/-- The run options are made to agree. -/
def reconcile : FormAction Adjustments := do
  let runText ← FormAction.read .runHours
  let eruptText ← FormAction.read .eruptHours
  let saveText ← FormAction.read .saveHours
  let phiDist ← FormAction.read .phiDist
  let ashLogMean ← FormAction.read .ashLogMean
  let _ ← FormAction.read .ashLogSdev
  let run ← readHours .runHours runText
  let erupt ← readHours .eruptHours eruptText
  let save ← readHours .saveHours saveText
  let eruptClamped ← writeWhen (isLess run erupt) .eruptHours runText
  let saveClamped ← writeWhen (isLess run save) .saveHours runText
  let (logParams, phi) ← separateDistributions phiDist ashLogMean
  return ⟨eruptClamped, saveClamped, logParams, phi⟩

end PlumeForm.RunOptions
