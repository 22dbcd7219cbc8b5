import PlumeForm.Page.Dispatch
import PlumeForm.Proofs.RunOptions.Plan
import PlumeForm.Proofs.Selection.Plan

/-!
# The effect of an event

What an event does to a page, written without actions (`Event.effect`): ten of the eleven events
follow a plan, and the change of an eruption date is the one that writes before it fails.
`dispatch_eq` says that this is what `dispatch` does.
-/

namespace PlumeForm

/-! ## Effects -/

/-- A plan for the run form, as a plan for the page around it. -/
def Page.planForm {α : Type} (page : Page) (outcome : α → Outcome)
    (plan : Except FormError (α × Form)) : Except FormError (Outcome × Page) :=
  plan.map fun result => (outcome result.1, { page with runForm := result.2 })

/-- The page with both frames sent to an earlier run. -/
def Page.reopen (page : Page) (settings : Settings) (session previous : String) : Page :=
  { page with
    paramsFrame :=
      page.paramsFrame.navigate ((Endpoint.runParams previous session).target settings.endpoints)
    displayFrame :=
      page.displayFrame.navigate
        ((Endpoint.ashxpOptions previous session).target settings.endpoints) }

/-- The text that is checked for a text in the control of the eruption date. -/
def Settings.dateValue (settings : Settings) (now : Int) (text : String) : String :=
  if settings.normalizeEruptionDates then EruptionDate.normalize text now else text

/-- The page after its date was rejected. -/
def Page.rejectDate (page : Page) : Page :=
  { page with
    runForm := page.runForm.put .eruptDate ""
    window := page.window.alert badEruptionDateText }

/-- The effect of a changed eruption date. -/
def Page.checkDate (page : Page) (settings : Settings) (now : Int) :
    Except FormError Outcome × Page :=
  match page.runForm.text? .eruptDate with
  | none => (.error (.missingField .eruptDate), page)
  | some text =>
    let value := settings.dateValue now text
    if settings.eruptionDateCheck.accepts value then
      (.ok .done, { page with runForm := page.runForm.put .eruptDate value })
    else (.error (.badEruptionDate value), page.rejectDate)

/-- The result of an event, and the page after it. -/
def Event.effect (settings : Settings) (now : Int) (page : Page) :
    Event → Except FormError Outcome × Page
  | volcanoSelected =>
    settle page
      (page.planForm .volcanoPopulated (Selection.plan page.volcanoes page.runForm))
  | unknownVolcanoRequested count =>
    settle page (page.planForm (fun _ => .done) (Selection.unknownPlan page.runForm count))
  | eruptDateChanged => page.checkDate settings now
  | runOptionsSubmitted =>
    settle page (page.planForm .runOptionsReconciled (RunOptions.plan page.runForm))
  | previousRunRequested session =>
    settle page
      ((previousRun settings page).map fun previous =>
        (.done, page.reopen settings session previous))
  | imageRequested workingDir =>
    settle page
      ((page.ashxpForm.get .image).map fun image => (.done, page.display (workingDir ++ image)))
  | movieRequested url => (.ok .done, page.display url)
  | helpRequested url => (.ok .done, page.popUp (helpRequest settings url))
  | displayReset => (.ok .done, page.display (Endpoint.placeholder.target settings.endpoints))
  | mapOptionsRequested => (.ok .done, page.popUp (mapOptionsRequest settings))
  | defaultOptionsRequested session previous =>
    (.ok .done,
      page.display ((Endpoint.ashxpOptions previous session).target settings.endpoints))

theorem error_of_previousRun {settings : Settings} {page : Page} {e : FormError}
    (h : previousRun settings page = .error e) : e = .missingField .previous := by
  unfold previousRun at h
  split at h
  · cases h
  · cases h
    rfl

/-! ## Actions have these effects -/

/-- An action on the run form that follows a plan, as a step of an event. -/
theorem run_onRunForm_bind {α : Type} {action : FormAction α} {page : Page}
    {plan : Except FormError (α × Form)} (outcome : α → Outcome)
    (h : action.run.run page.runForm = settle page.runForm plan) :
    (do let a ← PageAction.onRunForm action; return outcome a : PageAction Outcome).run.run page =
      settle page (page.planForm outcome plan) := by
  rw [run_bind, PageAction.run_onRunForm, h]
  rcases plan with e | ⟨a, form⟩
  · rfl
  · rfl

theorem run_reopenRun (settings : Settings) (session : String) (page : Page) :
    (do reopenRun settings session; return .done : PageAction Outcome).run.run page =
      settle page
        ((previousRun settings page).map fun previous =>
          (.done, page.reopen settings session previous)) := by
  simp only [reopenRun, run_bind, run_get, run_lift]
  cases previousRun settings page with
  | error e => rfl
  | ok previous => rfl

theorem run_showImage (workingDir : String) (page : Page) :
    (do showImage workingDir; return .done : PageAction Outcome).run.run page =
      settle page
        ((page.ashxpForm.get .image).map fun image =>
          (.done, page.display (workingDir ++ image))) := by
  simp only [showImage, run_bind, run_get, run_lift]
  cases page.ashxpForm.get .image with
  | error e => rfl
  | ok image => rfl

/-- A write to a control that the run form has. -/
theorem run_onRunForm_write {field : Field} (text : String) {page : Page}
    (h : page.runForm.has field = true) :
    (PageAction.onRunForm (FormAction.write field text)).run.run page =
      (.ok (), { page with runForm := page.runForm.put field text }) := by
  rw [PageAction.run_onRunForm, FormAction.run_write field text page.runForm h]

/-- A text that differs is written before the action goes on, which leaves the control with the
text in either case. -/
theorem run_writeDate {α : Type} {value text : String} {page : Page}
    (h : page.runForm.text? .eruptDate = some text) (next : PageAction α) :
    (if value ≠ text then do
        PageAction.onRunForm (FormAction.write .eruptDate value)
        next
      else next).run.run page =
      next.run.run { page with runForm := page.runForm.put .eruptDate value } := by
  by_cases hvalue : value = text
  · subst hvalue
    rw [if_neg (fun hne => hne rfl), Form.put_text page.runForm h]
  · have hhas : page.runForm.has .eruptDate = true := Form.has_of_get (Form.get_eq_ok_iff.2 h)
    rw [if_pos hvalue, run_bind, run_onRunForm_write value hhas]

/-- A text that does not pass is emptied after the user was told. -/
theorem run_rejectDate (accepted : Bool) (value : String) {page : Page}
    (h : page.runForm.has .eruptDate = true) :
    (if !accepted then do
        modify (·.alert badEruptionDateText)
        PageAction.onRunForm (FormAction.write .eruptDate "")
        throw (FormError.badEruptionDate value)
      else pure () : PageAction Unit).run.run page =
      if accepted then (.ok (), page) else (.error (.badEruptionDate value), page.rejectDate) := by
  cases accepted with
  | true => rfl
  | false =>
    have hhas : (page.alert badEruptionDateText).runForm.has .eruptDate = true := h
    simp only [Bool.not_false, if_true, run_bind, run_modify, run_onRunForm_write "" hhas,
      run_throw, Bool.false_eq_true, if_false]
    rfl

/-- The check of a date on a form that has one. -/
theorem run_checkEruptionDate_of_text (settings : Settings) (now : Int) {page : Page}
    {text : String} (h : page.runForm.text? .eruptDate = some text) :
    (checkEruptionDate settings now).run.run page =
      let value := settings.dateValue now text
      let written := { page with runForm := page.runForm.put .eruptDate value }
      if settings.eruptionDateCheck.accepts value then (.ok (), written)
      else (.error (.badEruptionDate value), written.rejectDate) := by
  unfold checkEruptionDate
  rw [run_bind, PageAction.run_onRunForm, FormAction.run_read, Form.get_eq_ok_iff.2 h]
  exact (run_writeDate h _).trans (run_rejectDate _ _ (Form.has_put_self _ _ _))

theorem run_checkEruptionDate (settings : Settings) (now : Int) (page : Page) :
    (do checkEruptionDate settings now; return .done : PageAction Outcome).run.run page =
      page.checkDate settings now := by
  unfold Page.checkDate
  rw [run_bind]
  cases htext : page.runForm.text? .eruptDate with
  | none =>
    unfold checkEruptionDate
    rw [run_bind, PageAction.run_onRunForm, FormAction.run_read, Form.get, htext]
  | some text =>
    rw [run_checkEruptionDate_of_text settings now htext]
    cases haccepts : settings.eruptionDateCheck.accepts (settings.dateValue now text) with
    | true => simp only [haccepts, if_true, run_pure]
    | false =>
      simp only [haccepts, Bool.false_eq_true, if_false, Page.rejectDate, Form.put_put]

theorem run_action (settings : Settings) (event : Event) (now : Int) (page : Page) :
    (event.action settings now).run.run page = event.effect settings now page := by
  cases event with
  | volcanoSelected =>
    exact run_onRunForm_bind .volcanoPopulated (Selection.run_populate page.volcanoes page.runForm)
  | unknownVolcanoRequested count =>
    exact run_onRunForm_bind (fun _ => .done) (Selection.run_selectUnknown count page.runForm)
  | eruptDateChanged => exact run_checkEruptionDate settings now page
  | runOptionsSubmitted =>
    exact run_onRunForm_bind .runOptionsReconciled (RunOptions.run_reconcile page.runForm)
  | previousRunRequested session => exact run_reopenRun settings session page
  | imageRequested workingDir => exact run_showImage workingDir page
  | movieRequested url => rfl
  | helpRequested url => rfl
  | displayReset => rfl
  | mapOptionsRequested => rfl
  | defaultOptionsRequested session previous => rfl

/-- Dispatching has the effect of the event and files a failure under it. -/
theorem dispatch_eq (settings : Settings) (event : Event) (now : Int) (page : Page) :
    dispatch settings event now page =
      ((event.effect settings now page).1.mapError (EventError.ofEvent event),
        (event.effect settings now page).2) := by
  rw [← run_action]
  rfl

end PlumeForm
