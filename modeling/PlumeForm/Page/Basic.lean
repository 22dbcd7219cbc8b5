import PlumeForm.Page.Form
import PlumeForm.Page.Frame
import PlumeForm.Page.Window
import PlumeForm.Volcano

/-!
# Pages

A page holds the run form and the ash cloud form, the frame with the run's parameters, the frame
that displays results, and the window around them.
-/

namespace PlumeForm

/-- A page, with the volcanoes behind the selector of its run form. -/
structure Page where
  runForm : Form := Form.run
  ashxpForm : Form := Form.ashxp
  paramsFrame : Frame := Frame.named "runParams"
  displayFrame : Frame := Frame.named "ashxp"
  window : Window := {}
  volcanoes : VolcanoTable := VolcanoTable.empty

/-- An action on a page; what it has changed before it fails stays changed. -/
abbrev PageAction := ExceptT FormError (StateM Page)

namespace Page

/-- The display frame is sent to a target. -/
def display (page : Page) (target : String) : Page :=
  { page with displayFrame := page.displayFrame.navigate target }

/-- The window opens another one. -/
def popUp (page : Page) (request : WindowRequest) : Page :=
  { page with window := page.window.popUp request }

/-- The window shows a message. -/
def alert (page : Page) (message : String) : Page :=
  { page with window := page.window.alert message }

end Page

namespace PageAction

/-- An action on the run form of a page. -/
def onRunForm {α : Type} (action : FormAction α) : PageAction α := do
  let page ← get
  let (result, form) := action.run.run page.runForm
  set { page with runForm := form }
  result

end PageAction

end PlumeForm
