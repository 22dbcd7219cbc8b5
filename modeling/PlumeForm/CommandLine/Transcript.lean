import PlumeForm.Json.Page
import PlumeForm.Json.Writer

/-!
# Transcripts

A command that fires an event shows what came of it and the page afterwards, as JSON with a line per
item.
-/

namespace PlumeForm.CommandLine

/-- The member that says what came of an event. -/
def resultMember : Except EventError Outcome → String × Json
  | .ok outcome => ("outcome", outcome.toJson)
  | .error e => ("error", e.source.report.toJson)

/-- The transcript of an event: its result and the page after it. -/
def transcript (result : Except EventError Outcome) (page : Page) : Json :=
  .object
    [resultMember result,
      ("run_form", page.runForm.toJson),
      ("params_frame", page.paramsFrame.toJson),
      ("display_frame", page.displayFrame.toJson),
      ("opened_windows", .list (page.window.opened.map WindowRequest.toJson)),
      ("alerts", .list (page.window.alerts.map .text))]

/-- A JSON value as it is shown. -/
def shown (value : Json) : String :=
  value.spread ++ "\n"

/-- The words for the failure of an event. -/
def failureText (e : EventError) : String :=
  e.context ++ " failed: " ++ e.source.message

end PlumeForm.CommandLine
