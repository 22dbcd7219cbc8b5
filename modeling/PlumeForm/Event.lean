import PlumeForm.FormError
import PlumeForm.Volcano

/-!
# Events of a page

What a user can do on the pages, what comes of it, and how a failure is filed under the event that
met it.
-/

namespace PlumeForm

/-- Something that a user does. -/
inductive Event where
  /-- Another entry of the volcano selector is chosen. -/
  | volcanoSelected
  /-- A position is typed by hand, so the selector of so many entries shows its last one. -/
  | unknownVolcanoRequested (optionCount : Nat)
  /-- The eruption date is changed. -/
  | eruptDateChanged
  /-- The run options are submitted. -/
  | runOptionsSubmitted
  /-- An earlier run is opened again. -/
  | previousRunRequested (session : String)
  /-- A picture of a run directory is shown. -/
  | imageRequested (workingDir : String)
  /-- A movie is shown. -/
  | movieRequested (url : String)
  /-- A help page is opened. -/
  | helpRequested (url : String)
  /-- The display is emptied. -/
  | displayReset
  /-- The map options are opened. -/
  | mapOptionsRequested
  /-- The display options of a run are set back. -/
  | defaultOptionsRequested (session previous : String)
deriving DecidableEq, Repr

/-- The word for the event. -/
def Event.name : Event → String
  | volcanoSelected => "volcano_selected"
  | unknownVolcanoRequested _ => "unknown_volcano_requested"
  | eruptDateChanged => "erupt_date_changed"
  | runOptionsSubmitted => "run_options_submitted"
  | previousRunRequested _ => "previous_run_requested"
  | imageRequested _ => "image_requested"
  | movieRequested _ => "movie_requested"
  | helpRequested _ => "help_requested"
  | displayReset => "display_reset"
  | mapOptionsRequested => "map_options_requested"
  | defaultOptionsRequested .. => "default_options_requested"

/-- What reconciling the run options has changed. -/
structure Adjustments where
  eruptHoursClamped : Bool := false
  saveHoursClamped : Bool := false
  logParamsCleared : Bool := false
  phiDistCleared : Bool := false
deriving DecidableEq, Repr

/-- Something has changed. -/
def Adjustments.any (a : Adjustments) : Bool :=
  a.eruptHoursClamped || a.saveHoursClamped || a.logParamsCleared || a.phiDistCleared

/-- What comes of an event that succeeds. -/
inductive Outcome where
  | done
  | volcanoPopulated (volcano : Volcano)
  | runOptionsReconciled (adjustments : Adjustments)
deriving DecidableEq, Repr

/-! ## Failures -/

/-- The kind of trouble that a failure means for the user. -/
inductive Category where
  | validation
  | selection
  /-- A control is missing from the page. -/
  | form
  /-- A frame does not show what the event needs. -/
  | navigation
  | configuration
deriving DecidableEq, Repr

/-- The word for the kind of trouble. -/
def Category.name : Category → String
  | validation => "validation"
  | selection => "selection"
  | form => "form"
  | navigation => "navigation"
  | configuration => "configuration"

/-- The event is the one that reads a form inside another frame: there a missing control means that
the frame shows something else. -/
def Event.readsFrame : Event → Bool
  | previousRunRequested _ => true
  | _ => false

/-- A failure of an event. -/
structure EventError where
  category : Category
  /-- The word for the event. -/
  context : String
  source : FormError
deriving DecidableEq, Repr

namespace EventError

/-- The kind of trouble that a failure means for an event. -/
def categoryOf (event : Event) : FormError → Category
  | .badEruptionDate _ => .validation
  | .invalidNumber .. => .validation
  | .noSelection => .selection
  | .selectionOutOfRange .. => .selection
  | .noUnknownEntry => .selection
  | .missingField _ => if event.readsFrame then .navigation else .form
  | .raggedVolcanoTable _ => .configuration
  | .volcanoNameCount .. => .configuration
  | .volcanoList .. => .configuration

/-- A failure, filed under the event that met it. -/
def ofEvent (event : Event) (source : FormError) : EventError :=
  ⟨categoryOf event source, event.name, source⟩

/-- The user has been told already. -/
def userNotified (e : EventError) : Bool :=
  match e.source with
  | .badEruptionDate _ => true
  | _ => false

end EventError

end PlumeForm
