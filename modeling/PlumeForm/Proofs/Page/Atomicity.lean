import PlumeForm.Proofs.Page.Effect

/-!
# Failures leave no trace

An event that fails leaves the page exactly as it was, with one exception that is meant to be seen:
a rejected eruption date is emptied, and the user is told once. An event that succeeds tells the
user nothing. `dispatch_failure_atomic` says so of every event on every page.
-/

namespace PlumeForm

/-- The pages that an event may end on, given its result. -/
def Page.Atomic (page : Page) : Except FormError Outcome × Page → Prop
  | (.ok _, after) => after.window.alerts = page.window.alerts
  | (.error (.badEruptionDate _), after) =>
    page.runForm.has .eruptDate = true ∧ after = page.rejectDate
  | (.error _, after) => after = page

namespace Page

/-- A plan is atomic when it alerts nobody and its failures have nothing to do with dates. -/
theorem atomic_settle {page : Page} {plan : Except FormError (Outcome × Page)}
    (hok : ∀ outcome after, plan = .ok (outcome, after) →
      after.window.alerts = page.window.alerts)
    (herror : ∀ value, plan ≠ .error (.badEruptionDate value)) :
    page.Atomic (settle page plan) := by
  cases plan with
  | ok result => exact hok result.1 result.2 rfl
  | error e =>
    cases e with
    | badEruptionDate value => exact absurd rfl (herror value)
    | _ => rfl

/-- A plan for the run form does not reach the window. -/
theorem atomic_settle_planForm {α : Type} {page : Page} {outcome : α → Outcome}
    {plan : Except FormError (α × Form)}
    (herror : ∀ value, plan ≠ .error (.badEruptionDate value)) :
    page.Atomic (settle page (page.planForm outcome plan)) := by
  cases plan with
  | ok result => exact rfl
  | error e =>
    refine atomic_settle (fun _ _ h => nomatch h) fun value h => herror value ?_
    cases h
    rfl

theorem atomic_checkDate (page : Page) (settings : Settings) (now : Int) :
    page.Atomic (page.checkDate settings now) := by
  unfold checkDate
  cases htext : page.runForm.text? .eruptDate with
  | none => exact rfl
  | some text =>
    cases haccepts : settings.eruptionDateCheck.accepts (settings.dateValue now text) with
    | true =>
      simp only [haccepts, if_true]
      exact rfl
    | false =>
      simp only [haccepts, Bool.false_eq_true, if_false]
      exact ⟨Form.has_of_get (Form.get_eq_ok_iff.2 htext), rfl⟩

theorem atomic_effect (settings : Settings) (event : Event) (now : Int) (page : Page) :
    page.Atomic (event.effect settings now page) := by
  cases event with
  | volcanoSelected =>
    refine atomic_settle_planForm fun value h => ?_
    rcases Selection.error_of_plan h with ⟨-, h⟩ | ⟨_, -, -, h⟩ | ⟨_, -, -, h⟩ <;> cases h
  | unknownVolcanoRequested count =>
    refine atomic_settle_planForm fun value h => ?_
    cases (Selection.error_of_unknownPlan h).2
  | eruptDateChanged => exact atomic_checkDate page settings now
  | runOptionsSubmitted =>
    refine atomic_settle_planForm fun value h => ?_
    rcases RunOptions.error_of_plan h with ⟨_, -, -, h⟩ | ⟨_, -, _, -, -, -, h⟩ <;> cases h
  | previousRunRequested session =>
    unfold Event.effect
    cases hprevious : previousRun settings page with
    | ok previous => exact rfl
    | error e =>
      cases error_of_previousRun hprevious
      exact rfl
  | imageRequested workingDir =>
    unfold Event.effect
    cases himage : page.ashxpForm.get .image with
    | ok image => exact rfl
    | error e =>
      obtain ⟨-, rfl⟩ := Form.get_eq_error_iff.1 himage
      exact rfl
  | movieRequested url => exact rfl
  | helpRequested url => exact rfl
  | displayReset => exact rfl
  | mapOptionsRequested => exact rfl
  | defaultOptionsRequested session previous => exact rfl

end Page

/-- A failed event changes nothing, but for a rejected date: its control is emptied and the user is
alerted once. A successful event alerts nobody. -/
theorem dispatch_failure_atomic (settings : Settings) (event : Event) (now : Int) (page : Page) :
    match dispatch settings event now page with
    | (.ok _, after) => after.window.alerts = page.window.alerts
    | (.error e, after) =>
      match e.source with
      | .badEruptionDate _ =>
        page.runForm.has .eruptDate = true ∧
          after =
            { page with
              runForm := page.runForm.put .eruptDate ""
              window :=
                { page.window with alerts := page.window.alerts ++ [badEruptionDateText] } }
      | _ => after = page := by
  have hatomic := page.atomic_effect settings event now
  rw [dispatch_eq]
  generalize event.effect settings now page = effect at hatomic
  obtain ⟨result, after⟩ := effect
  cases result with
  | ok outcome => exact hatomic
  | error e =>
    cases e with
    | badEruptionDate value => exact hatomic
    | _ => exact hatomic

end PlumeForm
