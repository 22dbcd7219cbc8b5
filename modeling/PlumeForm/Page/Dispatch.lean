import PlumeForm.Page.Basic
import PlumeForm.Page.RunOptions
import PlumeForm.Page.Selection
import PlumeForm.Settings

/-!
# What events do to a page

Each event is one action on the page (`Event.action`). `dispatch` runs it and files a failure under
the event.
-/

namespace PlumeForm

/-- The eruption date is brought into canonical form if the settings say so, and checked. A date
that does not pass is emptied, and the user is told. -/
def checkEruptionDate (settings : Settings) (now : Int) : PageAction Unit := do
  let text ← PageAction.onRunForm (FormAction.read .eruptDate)
  let value := if settings.normalizeEruptionDates then EruptionDate.normalize text now else text
  if value ≠ text then PageAction.onRunForm (FormAction.write .eruptDate value)
  if !settings.eruptionDateCheck.accepts value then
    modify (·.alert badEruptionDateText)
    PageAction.onRunForm (FormAction.write .eruptDate "")
    throw (.badEruptionDate value)

/-- The run directory that the parameter frame's document names. -/
def previousRun (settings : Settings) (page : Page) : Except FormError String :=
  match page.paramsFrame.formText? settings.runParamsForm .previous with
  | some previous => .ok previous
  | none => .error (.missingField .previous)

/-- Both frames are sent to the run that the parameter frame names. -/
def reopenRun (settings : Settings) (session : String) : PageAction Unit := do
  let page ← get
  let previous ← previousRun settings page
  let params := (Endpoint.runParams previous session).target settings.endpoints
  let display := (Endpoint.ashxpOptions previous session).target settings.endpoints
  set ({ page with paramsFrame := page.paramsFrame.navigate params }.display display)

/-- The display frame is sent to the picture that the ash cloud form names. -/
def showImage (workingDir : String) : PageAction Unit := do
  let page ← get
  let image ← page.ashxpForm.get .image
  set (page.display (workingDir ++ image))

/-- The request for a help page. -/
def helpRequest (settings : Settings) (url : String) : WindowRequest :=
  ⟨url, some settings.helpWindowName, some settings.helpWindow⟩

/-- The request for the map options. -/
def mapOptionsRequest (settings : Settings) : WindowRequest :=
  { url := Endpoint.mapOptions.target settings.endpoints }

/-- What an event does. -/
def Event.action (settings : Settings) (now : Int) : Event → PageAction Outcome
  | volcanoSelected => do
    let volcano ← PageAction.onRunForm (Selection.populate (← get).volcanoes)
    return .volcanoPopulated volcano
  | unknownVolcanoRequested count => do
    PageAction.onRunForm (Selection.selectUnknown count)
    return .done
  | eruptDateChanged => do
    checkEruptionDate settings now
    return .done
  | runOptionsSubmitted => do
    let adjustments ← PageAction.onRunForm RunOptions.reconcile
    return .runOptionsReconciled adjustments
  | previousRunRequested session => do
    reopenRun settings session
    return .done
  | imageRequested workingDir => do
    showImage workingDir
    return .done
  | movieRequested url => do
    modify (·.display url)
    return .done
  | helpRequested url => do
    modify (·.popUp (helpRequest settings url))
    return .done
  | displayReset => do
    modify (·.display (Endpoint.placeholder.target settings.endpoints))
    return .done
  | mapOptionsRequested => do
    modify (·.popUp (mapOptionsRequest settings))
    return .done
  | defaultOptionsRequested session previous => do
    modify (·.display ((Endpoint.ashxpOptions previous session).target settings.endpoints))
    return .done

/-- The result of an event, and the page after it. -/
def dispatch (settings : Settings) (event : Event) (now : Int) (page : Page) :
    Except EventError Outcome × Page :=
  let (result, page) := (event.action settings now).run.run page
  (result.mapError (EventError.ofEvent event), page)

end PlumeForm
