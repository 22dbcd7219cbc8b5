import PlumeForm.Proofs.Page.Footprint
import PlumeForm.Proofs.Page.Session

/-!
# What a session leaves alone

A part of the page can differ after a session only if the session has an event that writes that part
(`exists_step_of_ne`). `dispatchAll_confined` goes through the parts: the ash cloud form, the
volcanoes, the set of controls of the run form and five of its texts have no event that writes them,
and every other part has few.
-/

namespace PlumeForm

/-- The texts of the controls that no event may change last for the whole session. -/
theorem text?_dispatchAll (settings : Settings) (session : List (Event × Int)) (page : Page)
    {f : Field} (hf : ∀ event : Event, f ∉ event.footprint) :
    (dispatchAll settings session page).2.runForm.text? f = page.runForm.text? f :=
  part_dispatchAll (fun page => page.runForm.text? f)
    (fun step _ page => step.1.text?_effect settings step.2 page (hf step.1)) page

theorem volcanoes_dispatchAll (settings : Settings) (session : List (Event × Int)) (page : Page) :
    (dispatchAll settings session page).2.volcanoes = page.volcanoes :=
  part_dispatchAll Page.volcanoes
    (fun step _ page => (step.1.reaches_effect settings step.2 page).volcanoes_eq) page

/-- The run form has the same controls after a session. -/
theorem has_dispatchAll (settings : Settings) (session : List (Event × Int)) (page : Page)
    (f : Field) :
    (dispatchAll settings session page).2.runForm.has f = page.runForm.has f :=
  part_dispatchAll (fun page => page.runForm.has f)
    (fun step _ page => step.1.has_effect settings step.2 page f) page

/-- A part of the page that differs after a session has an event in the session that writes it. -/
theorem exists_step_of_ne {α : Type} {settings : Settings} (part : Page → α)
    (writes : Event → Prop)
    (hstep : ∀ event now page, ¬ writes event →
      part (event.effect settings now page).2 = part page)
    {session : List (Event × Int)} {page : Page}
    (hne : part (dispatchAll settings session page).2 ≠ part page) :
    ∃ step ∈ session, writes step.1 := by
  by_cases hwrites : ∃ step ∈ session, writes step.1
  · exact hwrites
  · have hquiet : ∀ step ∈ session, ¬ writes step.1 :=
      fun step hmem hstep => hwrites ⟨step, hmem, hstep⟩
    refine absurd (part_dispatchAll part (fun step hmem page => ?_) page) hne
    exact hstep step.1 step.2 page (hquiet step hmem)

/-- A control that one kind of event alone may write differs only through an event of that kind. -/
theorem exists_step_of_text?_ne {settings : Settings} {session : List (Event × Int)} {page : Page}
    {f : Field} {kind : Event} (hkind : ∀ event : Event, f ∈ event.footprint → event = kind)
    (hne : (dispatchAll settings session page).2.runForm.text? f ≠ page.runForm.text? f) :
    ∃ now, (kind, now) ∈ session := by
  obtain ⟨⟨event, now⟩, hmem, hwrites⟩ :=
    exists_step_of_ne (fun page => page.runForm.text? f) (fun event => f ∈ event.footprint)
      (fun event now page hquiet => event.text?_effect settings now page hquiet) hne
  have hevent : event = kind := hkind event hwrites
  subst hevent
  exact ⟨now, hmem⟩

/-- The selector moves only when a position is given by hand. -/
theorem Event.selected_effect_of_ne (settings : Settings) (now : Int) (page : Page) {event : Event}
    (h : ∀ count, event ≠ .unknownVolcanoRequested count) :
    (event.effect settings now page).2.runForm.selected = page.runForm.selected := by
  have hreaches := event.reaches_effect settings now page
  cases event with
  | volcanoSelected =>
    exact Page.settle_planForm_cases
      (P := fun after => after.runForm.selected = page.runForm.selected) rfl
      fun volcano form hplan => Selection.selected_of_plan hplan
  | unknownVolcanoRequested count => exact absurd rfl (h count)
  | _ => exact hreaches.selected_eq EventGroup.noConfusion

/-- What a session on any page, and so any part of a session, may change. The ash cloud form, the
volcanoes, the controls of the run form and five of its texts stay. The four numbers of a volcano
differ afterwards only if a volcano was selected, the date only if it was changed, the other run
options only if they were submitted, the selector only if a position was given by hand, a frame only
if one of the five events that send frames anywhere happened, and the opened windows only if one of
the two events that open windows did. -/
theorem dispatchAll_confined (settings : Settings) (session : List (Event × Int)) (page : Page) :
    let after := (dispatchAll settings session page).2
    after.ashxpForm = page.ashxpForm ∧
    after.volcanoes = page.volcanoes ∧
    (∀ f, after.runForm.has f = page.runForm.has f) ∧
    (∀ f ∈ [Field.volc, .runHours, .phiDist, .image, .previous],
      after.runForm.text? f = page.runForm.text? f) ∧
    (∀ f ∈ [Field.lat, .lon, .plumeMin, .area],
      after.runForm.text? f ≠ page.runForm.text? f → ∃ now, (.volcanoSelected, now) ∈ session) ∧
    (after.runForm.text? .eruptDate ≠ page.runForm.text? .eruptDate →
      ∃ now, (.eruptDateChanged, now) ∈ session) ∧
    (∀ f ∈ [Field.eruptHours, .saveHours, .ashLogMean, .ashLogSdev],
      after.runForm.text? f ≠ page.runForm.text? f →
        ∃ now, (.runOptionsSubmitted, now) ∈ session) ∧
    (after.runForm.selected ≠ page.runForm.selected →
      ∃ count now, (.unknownVolcanoRequested count, now) ∈ session) ∧
    (after.paramsFrame ≠ page.paramsFrame ∨ after.displayFrame ≠ page.displayFrame →
      ∃ step ∈ session, step.1.group = .frames) ∧
    (after.window.opened ≠ page.window.opened → ∃ step ∈ session, step.1.group = .popups) := by
  intro after
  refine ⟨?ashxp, volcanoes_dispatchAll settings session page,
    has_dispatchAll settings session page,
    fun f hf =>
      text?_dispatchAll settings session page (Event.not_mem_footprint_of_fixed hf),
    fun f hf hne => ?volcano, fun hne => ?date, fun f hf hne => ?options, fun hne => ?selected,
    fun hne => ?frames, fun hne => ?opened⟩
  case ashxp =>
    exact part_dispatchAll Page.ashxpForm
      (fun step _ page => (step.1.reaches_effect settings step.2 page).ashxpForm_eq) page
  case volcano =>
    refine exists_step_of_text?_ne (fun event hwrites => ?_) hne
    cases event with
    | volcanoSelected => rfl
    | eruptDateChanged | runOptionsSubmitted =>
      revert hf hwrites
      cases f <;> decide
    | _ => cases hwrites
  case date =>
    refine exists_step_of_text?_ne (fun event hwrites => ?_) hne
    cases event with
    | eruptDateChanged => rfl
    | volcanoSelected | runOptionsSubmitted =>
      revert hwrites
      decide
    | _ => cases hwrites
  case options =>
    refine exists_step_of_text?_ne (fun event hwrites => ?_) hne
    cases event with
    | runOptionsSubmitted => rfl
    | volcanoSelected | eruptDateChanged =>
      revert hf hwrites
      cases f <;> decide
    | _ => cases hwrites
  case selected =>
    obtain ⟨⟨event, now⟩, hmem, count, hevent⟩ :=
      exists_step_of_ne (fun page => page.runForm.selected)
        (fun event => ∃ count, event = .unknownVolcanoRequested count)
        (fun event now page hquiet =>
          event.selected_effect_of_ne settings now page fun count h => hquiet ⟨count, h⟩) hne
    subst hevent
    exact ⟨count, now, hmem⟩
  case frames =>
    rcases hne with hne | hne
    · exact exists_step_of_ne Page.paramsFrame _
        (fun event now page hquiet =>
          (event.reaches_effect settings now page).paramsFrame_eq hquiet) hne
    · exact exists_step_of_ne Page.displayFrame _
        (fun event now page hquiet =>
          (event.reaches_effect settings now page).displayFrame_eq hquiet) hne
  case opened =>
    exact exists_step_of_ne (fun page => page.window.opened) _
      (fun event now page hquiet =>
        (event.reaches_effect settings now page).opened_eq hquiet) hne

end PlumeForm
