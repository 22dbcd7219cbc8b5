import PlumeForm.Proofs.Page.Effect

/-!
# What an event may touch

Each event has a footprint on the run form: the controls whose texts it may change. Every other
control keeps its text, whether the event succeeds or fails (`text?_effect`). The events fall into
five groups by the parts of the page that they may change (`reaches_effect`); no event changes the
ash cloud form or the volcanoes.
-/

namespace PlumeForm

/-- The controls of the run form whose texts the event may change. -/
def Event.footprint : Event → List Field
  | volcanoSelected => Selection.controls
  | eruptDateChanged => [.eruptDate]
  | runOptionsSubmitted => RunOptions.rewritten
  | _ => []

/-- What holds of a page, and of the page with the form that a plan makes, holds after the plan. -/
theorem Page.settle_planForm_cases {α : Type} {page : Page} {outcome : α → Outcome}
    {plan : Except FormError (α × Form)} {P : Page → Prop} (hpage : P page)
    (hok : ∀ a form, plan = .ok (a, form) → P { page with runForm := form }) :
    P (settle page (page.planForm outcome plan)).2 := by
  cases plan with
  | ok result => exact hok result.1 result.2 rfl
  | error e => exact hpage

/-- A plan for the run form leaves what it does not reach, and so does its failure. -/
theorem Page.text?_settle_planForm {α : Type} {page : Page} {outcome : α → Outcome}
    {plan : Except FormError (α × Form)} {f : Field}
    (h : ∀ a form, plan = .ok (a, form) → form.text? f = page.runForm.text? f) :
    (settle page (page.planForm outcome plan)).2.runForm.text? f = page.runForm.text? f :=
  settle_planForm_cases (P := fun after => after.runForm.text? f = page.runForm.text? f) rfl h

theorem Page.text?_checkDate {page : Page} (settings : Settings) (now : Int) {f : Field}
    (hf : f ≠ .eruptDate) :
    (page.checkDate settings now).2.runForm.text? f = page.runForm.text? f := by
  unfold checkDate
  cases page.runForm.text? .eruptDate with
  | none => rfl
  | some text =>
    dsimp only
    split
    · exact Form.text?_put_of_ne _ _ hf
    · exact Form.text?_put_of_ne _ _ hf

/-- An event changes the texts of its footprint only. -/
theorem Event.text?_effect (settings : Settings) (now : Int) (page : Page) {event : Event}
    {f : Field} (hf : f ∉ event.footprint) :
    (event.effect settings now page).2.runForm.text? f = page.runForm.text? f := by
  cases event with
  | volcanoSelected =>
    refine Page.text?_settle_planForm fun volcano form h => ?_
    exact Selection.text?_of_plan h hf
  | unknownVolcanoRequested count =>
    refine Page.text?_settle_planForm fun _ form h => ?_
    cases count with
    | zero => cases h
    | succ count =>
      cases h
      rfl
  | eruptDateChanged =>
    exact Page.text?_checkDate settings now fun h => hf (h ▸ List.mem_singleton.2 rfl)
  | runOptionsSubmitted =>
    refine Page.text?_settle_planForm fun adjustments form h => ?_
    exact RunOptions.text?_of_plan h hf
  | previousRunRequested session =>
    unfold Event.effect
    cases previousRun settings page <;> rfl
  | imageRequested workingDir =>
    unfold Event.effect
    cases page.ashxpForm.get .image <;> rfl
  | movieRequested url => rfl
  | helpRequested url => rfl
  | displayReset => rfl
  | mapOptionsRequested => rfl
  | defaultOptionsRequested session previous => rfl

/-- Five controls of the run form are in no footprint. -/
theorem Event.not_mem_footprint_of_fixed {f : Field}
    (hf : f ∈ [Field.volc, .runHours, .phiDist, .image, .previous]) (event : Event) :
    f ∉ event.footprint := by
  revert hf
  cases event with
  | volcanoSelected | eruptDateChanged | runOptionsSubmitted => cases f <;> decide
  | _ => exact fun _ => List.not_mem_nil

theorem Page.has_checkDate (page : Page) (settings : Settings) (now : Int) (f : Field) :
    (page.checkDate settings now).2.runForm.has f = page.runForm.has f := by
  unfold checkDate
  cases htext : page.runForm.text? .eruptDate with
  | none => rfl
  | some text =>
    have hdate : page.runForm.has .eruptDate = true := Form.has_of_get (Form.get_eq_ok_iff.2 htext)
    dsimp only
    split
    · exact Form.has_put_eq hdate _ f
    · exact Form.has_put_eq hdate _ f

/-- No event adds a control to the run form or takes one away. -/
theorem Event.has_effect (settings : Settings) (now : Int) (page : Page) (event : Event)
    (f : Field) : (event.effect settings now page).2.runForm.has f = page.runForm.has f := by
  -- Only three events write to controls; the others are known by their empty footprint.
  cases event with
  | volcanoSelected =>
    exact Page.settle_planForm_cases (P := fun after => after.runForm.has f = page.runForm.has f)
      rfl fun volcano form h => Selection.has_of_plan h f
  | eruptDateChanged => exact page.has_checkDate settings now f
  | runOptionsSubmitted =>
    exact Page.settle_planForm_cases (P := fun after => after.runForm.has f = page.runForm.has f)
      rfl fun adjustments form h => RunOptions.has_of_plan h f
  | _ => rw [Form.has, Form.has, Event.text?_effect settings now page List.not_mem_nil]

/-! ## Groups of events -/

/-- A group of events that have a part of the page to themselves. -/
inductive EventGroup where
  /-- The volcano selector and the controls of the chosen volcano. -/
  | volcano
  /-- The eruption date and the messages about it. -/
  | date
  | options
  /-- Where the two frames go. -/
  | frames
  /-- The windows that are opened. -/
  | popups
deriving DecidableEq, Repr

/-- The group of the event. -/
def Event.group : Event → EventGroup
  | volcanoSelected => .volcano
  | unknownVolcanoRequested _ => .volcano
  | eruptDateChanged => .date
  | runOptionsSubmitted => .options
  | previousRunRequested _ => .frames
  | imageRequested _ => .frames
  | movieRequested _ => .frames
  | displayReset => .frames
  | defaultOptionsRequested .. => .frames
  | helpRequested _ => .popups
  | mapOptionsRequested => .popups

/-- The page that an event of a group may leave of a page. -/
inductive Page.Reaches (page : Page) : EventGroup → Page → Prop
  | volcano (form : Form) : Reaches page .volcano { page with runForm := form }
  | date (form : Form) (alerts : List String) (h : form.selected = page.runForm.selected) :
    Reaches page .date { page with runForm := form, window := { page.window with alerts } }
  | options (form : Form) (h : form.selected = page.runForm.selected) :
    Reaches page .options { page with runForm := form }
  | frames (paramsFrame displayFrame : Frame) :
    Reaches page .frames { page with paramsFrame, displayFrame }
  | popups (opened : List WindowRequest) :
    Reaches page .popups { page with window := { page.window with opened } }

theorem Page.reaches_checkDate (page : Page) (settings : Settings) (now : Int) :
    page.Reaches .date (page.checkDate settings now).2 := by
  unfold checkDate
  cases page.runForm.text? .eruptDate with
  | none => exact .date page.runForm page.window.alerts rfl
  | some text =>
    dsimp only
    split
    · exact .date (page.runForm.put .eruptDate _) page.window.alerts rfl
    · exact .date (page.runForm.put .eruptDate "") (page.window.alerts ++ [badEruptionDateText]) rfl

/-- An event changes nothing beyond the part of its group. -/
theorem Event.reaches_effect (settings : Settings) (now : Int) (page : Page) (event : Event) :
    page.Reaches event.group (event.effect settings now page).2 := by
  cases event with
  | volcanoSelected | unknownVolcanoRequested count =>
    exact Page.settle_planForm_cases (.volcano page.runForm) fun _ form _ => .volcano form
  | eruptDateChanged => exact page.reaches_checkDate settings now
  | runOptionsSubmitted =>
    refine Page.settle_planForm_cases (.options page.runForm rfl) fun _ form h => ?_
    exact .options form (RunOptions.selected_of_plan h)
  | previousRunRequested session =>
    unfold Event.effect
    cases previousRun settings page with
    | ok previous => exact .frames _ _
    | error e => exact .frames page.paramsFrame page.displayFrame
  | imageRequested workingDir =>
    unfold Event.effect
    cases page.ashxpForm.get .image with
    | ok image => exact .frames page.paramsFrame _
    | error e => exact .frames page.paramsFrame page.displayFrame
  | movieRequested url => exact .frames page.paramsFrame _
  | displayReset => exact .frames page.paramsFrame _
  | defaultOptionsRequested session previous => exact .frames page.paramsFrame _
  | helpRequested url => exact .popups _
  | mapOptionsRequested => exact .popups _

namespace Page.Reaches

variable {page after : Page} {group : EventGroup}

theorem ashxpForm_eq (h : page.Reaches group after) : after.ashxpForm = page.ashxpForm := by
  cases h <;> rfl

theorem volcanoes_eq (h : page.Reaches group after) : after.volcanoes = page.volcanoes := by
  cases h <;> rfl

theorem selected_eq (h : page.Reaches group after) (hgroup : group ≠ .volcano) :
    after.runForm.selected = page.runForm.selected := by
  cases h with
  | volcano form => exact absurd rfl hgroup
  | date form alerts hselected => exact hselected
  | options form hselected => exact hselected
  | frames => rfl
  | popups => rfl

theorem alerts_eq (h : page.Reaches group after) (hgroup : group ≠ .date) :
    after.window.alerts = page.window.alerts := by
  cases h with
  | date form alerts hselected => exact absurd rfl hgroup
  | _ => rfl

theorem paramsFrame_eq (h : page.Reaches group after) (hgroup : group ≠ .frames) :
    after.paramsFrame = page.paramsFrame := by
  cases h with
  | frames => exact absurd rfl hgroup
  | _ => rfl

theorem displayFrame_eq (h : page.Reaches group after) (hgroup : group ≠ .frames) :
    after.displayFrame = page.displayFrame := by
  cases h with
  | frames => exact absurd rfl hgroup
  | _ => rfl

theorem opened_eq (h : page.Reaches group after) (hgroup : group ≠ .popups) :
    after.window.opened = page.window.opened := by
  cases h with
  | popups => exact absurd rfl hgroup
  | _ => rfl

end Page.Reaches

end PlumeForm
