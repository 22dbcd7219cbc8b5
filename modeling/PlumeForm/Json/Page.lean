import PlumeForm.Json.Domain
import PlumeForm.Page.Dispatch

/-!
# Pages in JSON

What a transcript shows of a page: forms with their controls in order, frames with their journeys,
and outcomes with a word that says which one it is.
-/

namespace PlumeForm

/-- The selection member, when there is a selection. -/
def Form.selectedMember : Option Nat → List (String × Json)
  | some index => [("selected_index", .ofNat index)]
  | none => []

/-- The form as a record. -/
def Form.toJson (form : Form) : Json :=
  .object (selectedMember form.selected ++
    [("fields", .object (form.entries.map fun e => (e.1.name, .text e.2)))])

/-- A member that holds an address, when there is one. -/
def Url.member (name : String) : Option Url → List (String × Json)
  | some url => [(name, .text url.render)]
  | none => []

/-- The journey as a record. -/
def Navigation.toJson (n : Navigation) : Json :=
  .object (("target", .text n.target) :: Url.member "resolved" n.resolved)

/-- The frame as a record. -/
def Frame.toJson (frame : Frame) : Json :=
  .object (("name", .text frame.name) :: Url.member "document_url" frame.documentUrl ++
    [("navigations", .list (frame.navigations.map Navigation.toJson))])

/-- The adjustments as a record. -/
def Adjustments.toJson (a : Adjustments) : Json :=
  .object
    [("erupt_hours_clamped", .bool a.eruptHoursClamped),
      ("save_hours_clamped", .bool a.saveHoursClamped),
      ("log_params_cleared", .bool a.logParamsCleared),
      ("phi_dist_cleared", .bool a.phiDistCleared)]

/-- The outcome as a record. -/
def Outcome.toJson : Outcome → Json
  | done => .object [("outcome", .text "done")]
  | volcanoPopulated volcano =>
    .object [("outcome", .text "volcano_populated"), ("volcano", volcano.toJson)]
  | runOptionsReconciled adjustments =>
    .object
      [("outcome", .text "run_options_reconciled"), ("adjustments", adjustments.toJson)]

end PlumeForm
