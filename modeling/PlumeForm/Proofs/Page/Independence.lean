import PlumeForm.Proofs.Page.Confinement

/-!
# Events that do not depend on each other

An event sees no more of a page than what its group shares (`SameFor`): on two pages that agree
there it has the same result and leaves pages that agree there again (`sameFor_effect`), and events
of other groups change none of it (`sameFor_effect_of_ne`). So a group takes from a session what it
would take from a session of its own events alone (`dispatchAll_ownSession`), and two sessions that
differ only in how the events of different groups are interleaved end on the same page, with the
same results (`dispatchAll_interleaved`).
-/

namespace PlumeForm

/-! ## What a group sees -/

/-- The pages agree in what the events of a group read or write. -/
def EventGroup.SameFor : EventGroup → Page → Page → Prop
  | volcano, p, q =>
    p.volcanoes = q.volcanoes ∧ p.runForm.selected = q.runForm.selected ∧
      p.runForm.AgreeOn Selection.controls q.runForm
  | date, p, q =>
    p.runForm.text? .eruptDate = q.runForm.text? .eruptDate ∧ p.window.alerts = q.window.alerts
  | options, p, q => p.runForm.AgreeOn RunOptions.controls q.runForm
  | frames, p, q =>
    p.ashxpForm = q.ashxpForm ∧ p.paramsFrame = q.paramsFrame ∧ p.displayFrame = q.displayFrame
  | popups, p, q => p.window.opened = q.window.opened

namespace EventGroup

theorem SameFor.refl (group : EventGroup) (p : Page) : group.SameFor p p := by
  cases group with
  | volcano => exact ⟨rfl, rfl, fun _ _ => rfl⟩
  | date => exact ⟨rfl, rfl⟩
  | options => exact fun _ _ => rfl
  | frames => exact ⟨rfl, rfl, rfl⟩
  | popups => exact rfl

theorem SameFor.symm {group : EventGroup} {p q : Page} (h : group.SameFor p q) :
    group.SameFor q p := by
  cases group with
  | volcano =>
    obtain ⟨hvolcanoes, hselected, htexts⟩ := h
    exact ⟨hvolcanoes.symm, hselected.symm, fun f hf => (htexts f hf).symm⟩
  | date => exact ⟨h.1.symm, h.2.symm⟩
  | options => exact fun f hf => (h f hf).symm
  | frames => exact ⟨h.1.symm, h.2.1.symm, h.2.2.symm⟩
  | popups => exact Eq.symm h

theorem SameFor.trans {group : EventGroup} {p q r : Page} (h : group.SameFor p q)
    (h' : group.SameFor q r) : group.SameFor p r := by
  cases group with
  | volcano =>
    obtain ⟨hvolcanoes, hselected, htexts⟩ := h
    obtain ⟨hvolcanoes', hselected', htexts'⟩ := h'
    exact ⟨hvolcanoes.trans hvolcanoes', hselected.trans hselected',
      fun f hf => (htexts f hf).trans (htexts' f hf)⟩
  | date => exact ⟨h.1.trans h'.1, h.2.trans h'.2⟩
  | options => exact fun f hf => (h f hf).trans (h' f hf)
  | frames => exact ⟨h.1.trans h'.1, h.2.1.trans h'.2.1, h.2.2.trans h'.2.2⟩
  | popups => exact Eq.trans h h'

end EventGroup

/-! ## Events of other groups -/

/-- The controls that belong to a group. -/
def EventGroup.controls : EventGroup → List Field
  | volcano => Selection.controls
  | date => [.eruptDate]
  | options => RunOptions.controls
  | frames => []
  | popups => []

theorem EventGroup.disjoint_controls {g g' : EventGroup} (h : g ≠ g') {f : Field}
    (hf : f ∈ g.controls) : f ∉ g'.controls := by
  revert h hf
  cases g <;> cases g' <;> cases f <;> decide

theorem Event.mem_controls_of_footprint {event : Event} {f : Field} (h : f ∈ event.footprint) :
    f ∈ event.group.controls := by
  cases event with
  | volcanoSelected => exact h
  | eruptDateChanged => exact h
  | runOptionsSubmitted =>
    revert h
    cases f <;> decide
  | _ => exact absurd h List.not_mem_nil

/-- An event leaves the controls of the other groups alone. -/
theorem Event.agreeOn_effect_of_ne (settings : Settings) (now : Int) (page : Page) {event : Event}
    {group : EventGroup} (h : event.group ≠ group) :
    (event.effect settings now page).2.runForm.AgreeOn group.controls page.runForm :=
  fun _ hf => text?_effect settings now page fun hfootprint =>
    EventGroup.disjoint_controls h (mem_controls_of_footprint hfootprint) hf

/-- An event of another group changes nothing that the group sees. -/
theorem Event.sameFor_effect_of_ne (settings : Settings) (now : Int) (page : Page) {event : Event}
    {group : EventGroup} (h : event.group ≠ group) :
    group.SameFor (event.effect settings now page).2 page := by
  have hreaches := event.reaches_effect settings now page
  have htexts := event.agreeOn_effect_of_ne settings now page h
  cases group with
  | volcano => exact ⟨hreaches.volcanoes_eq, hreaches.selected_eq h, htexts⟩
  | date => exact ⟨htexts .eruptDate List.mem_cons_self, hreaches.alerts_eq h⟩
  | options => exact htexts
  | frames =>
    exact ⟨hreaches.ashxpForm_eq, hreaches.paramsFrame_eq h, hreaches.displayFrame_eq h⟩
  | popups => exact hreaches.opened_eq h

/-! ## Events of the group -/

/-- The clock is read for dates only. -/
def Event.readsClock : Event → Bool
  | eruptDateChanged => true
  | _ => false

section

variable {α : Type} {p q : Page} {R : Form → Form → Prop}

/-- Plans for the run forms of two pages that are the same lead to the same result. -/
theorem Page.settle_planForm_congr (outcome : α → Outcome) {plan plan' : Except FormError (α × Form)}
    (h : SamePlan R plan plan') (hforms : R p.runForm q.runForm) :
    (settle p (p.planForm outcome plan)).1 = (settle q (q.planForm outcome plan')).1 ∧
      R (settle p (p.planForm outcome plan)).2.runForm
        (settle q (q.planForm outcome plan')).2.runForm := by
  cases h with
  | ok a hafter => exact ⟨rfl, hafter⟩
  | error e => exact ⟨rfl, hforms⟩

theorem Page.checkDate_congr (settings : Settings) (now : Int)
    (h : EventGroup.date.SameFor p q) :
    (p.checkDate settings now).1 = (q.checkDate settings now).1 ∧
      EventGroup.date.SameFor (p.checkDate settings now).2 (q.checkDate settings now).2 := by
  obtain ⟨htext, halerts⟩ := h
  unfold checkDate
  rw [htext]
  cases hq : q.runForm.text? .eruptDate with
  | none => exact ⟨rfl, htext, halerts⟩
  | some text =>
    dsimp only
    split
    · exact ⟨rfl, rfl, halerts⟩
    · exact ⟨rfl, rfl, congrArg (· ++ [badEruptionDateText]) halerts⟩

end

/-- On pages that agree for its group an event has one result, and the pages agree afterwards. -/
theorem Event.sameFor_effect (settings : Settings) {now now' : Int} {event : Event}
    (hnow : event.readsClock = true → now = now') {p q : Page} (h : event.group.SameFor p q) :
    (event.effect settings now p).1 = (event.effect settings now' q).1 ∧
      event.group.SameFor (event.effect settings now p).2 (event.effect settings now' q).2 := by
  have hp := event.reaches_effect settings now p
  have hq := event.reaches_effect settings now' q
  cases event with
  | volcanoSelected =>
    obtain ⟨hvolcanoes, hselected, htexts⟩ := h
    have hplan := Selection.plan_congr hvolcanoes hselected htexts
    obtain ⟨hresult, hforms⟩ :=
      Page.settle_planForm_congr .volcanoPopulated hplan ⟨hselected, htexts⟩
    exact ⟨hresult, hp.volcanoes_eq.trans (hvolcanoes.trans hq.volcanoes_eq.symm), hforms⟩
  | unknownVolcanoRequested count =>
    obtain ⟨hvolcanoes, hselected, htexts⟩ := h
    cases count with
    | zero => exact ⟨rfl, hvolcanoes, hselected, htexts⟩
    | succ count => exact ⟨rfl, hvolcanoes, rfl, htexts⟩
  | eruptDateChanged =>
    cases hnow rfl
    exact Page.checkDate_congr settings now h
  | runOptionsSubmitted =>
    exact Page.settle_planForm_congr .runOptionsReconciled (RunOptions.plan_congr h) h
  | previousRunRequested session =>
    obtain ⟨hashxp, hparams, hdisplay⟩ := h
    have hprevious : previousRun settings p = previousRun settings q := by
      rw [previousRun, previousRun, hparams]
    unfold Event.effect
    rw [hprevious]
    cases previousRun settings q with
    | error e => exact ⟨rfl, hashxp, hparams, hdisplay⟩
    | ok previous =>
      exact ⟨rfl, hashxp, congrArg (Frame.navigate · _) hparams,
        congrArg (Frame.navigate · _) hdisplay⟩
  | imageRequested workingDir =>
    obtain ⟨hashxp, hparams, hdisplay⟩ := h
    unfold Event.effect
    rw [hashxp]
    cases q.ashxpForm.get .image with
    | error e => exact ⟨rfl, hashxp, hparams, hdisplay⟩
    | ok image => exact ⟨rfl, hashxp, hparams, congrArg (Frame.navigate · _) hdisplay⟩
  | movieRequested url | displayReset | defaultOptionsRequested session previous =>
    obtain ⟨hashxp, hparams, hdisplay⟩ := h
    exact ⟨rfl, hashxp, hparams, congrArg (Frame.navigate · _) hdisplay⟩
  | helpRequested url | mapOptionsRequested =>
    exact ⟨rfl, congrArg (· ++ [_]) h⟩

/-! ## Sessions -/

/-- The step of a session without the reading of the clock, unless it is read. -/
def withoutClock (step : Event × Int) : Event × Int :=
  (step.1, if step.1.readsClock then step.2 else 0)

/-- What is left of a session for the events of one group, in their order. -/
def EventGroup.ownSession (group : EventGroup) (session : List (Event × Int)) :
    List (Event × Int) :=
  (session.filter (·.1.group = group)).map withoutClock

/-- The results that belong to the events of one group, in their order. -/
def EventGroup.ownResults {α : Type} (group : EventGroup) (session : List (Event × Int))
    (results : List α) : List α :=
  ((session.zip results).filter (·.1.1.group = group)).map (·.2)

theorem EventGroup.ownSession_cons (group : EventGroup) (step : Event × Int)
    (session : List (Event × Int)) :
    group.ownSession (step :: session) =
      if step.1.group = group then withoutClock step :: group.ownSession session
      else group.ownSession session := by
  by_cases h : step.1.group = group <;> simp [ownSession, h]

theorem EventGroup.ownResults_cons {α : Type} (group : EventGroup) (step : Event × Int)
    (session : List (Event × Int)) (result : α) (results : List α) :
    group.ownResults (step :: session) (result :: results) =
      if step.1.group = group then result :: group.ownResults session results
      else group.ownResults session results := by
  by_cases h : step.1.group = group <;> simp [ownResults, h]

/-- A session does to what a group sees the same as the group's own events alone, and these have
the same results. -/
theorem dispatchAll_ownSession (settings : Settings) {group : EventGroup}
    (session : List (Event × Int)) {p q : Page} (h : group.SameFor p q) :
    group.SameFor (dispatchAll settings session p).2
        (dispatchAll settings (group.ownSession session) q).2 ∧
      group.ownResults session (dispatchAll settings session p).1 =
        (dispatchAll settings (group.ownSession session) q).1 := by
  -- A step of the group is taken on both sides, any other step on the left only.
  induction session generalizing p q with
  | nil => exact ⟨h, rfl⟩
  | cons step session ih =>
    obtain ⟨event, now⟩ := step
    rw [dispatchAll_cons, dispatch_eq, EventGroup.ownSession_cons, EventGroup.ownResults_cons]
    by_cases hgroup : event.group = group
    · subst hgroup
      have hnow : event.readsClock = true → now = if event.readsClock then now else 0 :=
        fun hclock => (if_pos hclock).symm
      obtain ⟨hresult, hafter⟩ := event.sameFor_effect settings hnow h
      obtain ⟨hpage, hresults⟩ := ih hafter
      rw [if_pos rfl, if_pos rfl, hresults, hresult, withoutClock, dispatchAll_cons, dispatch_eq]
      exact ⟨hpage, rfl⟩
    · rw [if_neg hgroup, if_neg hgroup]
      exact ih ((event.sameFor_effect_of_ne settings now p hgroup).trans h)

/-- Pages that agree for every group and in the other controls are the same. -/
theorem Page.eq_of_sameFor {p q : Page} (h : ∀ group : EventGroup, group.SameFor p q)
    (hothers : p.runForm.AgreeOn [.volc, .image, .previous] q.runForm) : p = q := by
  obtain ⟨hvolcanoes, hselected, hvolcano⟩ := h .volcano
  obtain ⟨hdate, halerts⟩ := h .date
  have hoptions : p.runForm.AgreeOn RunOptions.controls q.runForm := h .options
  obtain ⟨hashxp, hparams, hdisplay⟩ := h .frames
  have hopened : p.window.opened = q.window.opened := h .popups
  have hform : p.runForm = q.runForm := by
    refine Form.ext hselected fun f => ?_
    cases f with
    | volc | image | previous => exact hothers _ (by decide)
    | lat | lon | plumeMin | area => exact hvolcano _ (by decide)
    | eruptDate => exact hdate
    | runHours | eruptHours | saveHours | phiDist | ashLogMean | ashLogSdev =>
      exact hoptions _ (by decide)
  have hwindow : p.window = q.window := by
    cases hp : p.window
    cases hq : q.window
    rw [hp, hq] at hopened halerts
    cases hopened
    cases halerts
    rfl
  cases p
  cases q
  cases hform
  cases hashxp
  cases hparams
  cases hdisplay
  cases hwindow
  cases hvolcanoes
  rfl

/-- Two sessions in which the events of every group come in one order, those that read the clock
with one reading, end on the same page, and every event has the same result in both. -/
theorem dispatchAll_interleaved (settings : Settings) (page : Page)
    {session session' : List (Event × Int)}
    (h : ∀ group : EventGroup, group.ownSession session = group.ownSession session') :
    (dispatchAll settings session page).2 = (dispatchAll settings session' page).2 ∧
      ∀ group : EventGroup,
        group.ownResults session (dispatchAll settings session page).1 =
          group.ownResults session' (dispatchAll settings session' page).1 := by
  have hown := fun group : EventGroup =>
    dispatchAll_ownSession settings session (EventGroup.SameFor.refl group page)
  have hown' := fun group : EventGroup =>
    dispatchAll_ownSession settings session' (EventGroup.SameFor.refl group page)
  refine ⟨Page.eq_of_sameFor (fun group => ?_) fun f hf => ?_, fun group => ?_⟩
  · have hleft := (hown group).1
    rw [h group] at hleft
    exact hleft.trans (hown' group).1.symm
  · have hfixed : f ∈ [Field.volc, .runHours, .phiDist, .image, .previous] := by
      revert hf
      cases f <;> decide
    rw [text?_dispatchAll settings session page (Event.not_mem_footprint_of_fixed hfixed),
      text?_dispatchAll settings session' page (Event.not_mem_footprint_of_fixed hfixed)]
  · rw [(hown group).2, (hown' group).2, h group]

/-- A date, an earlier run, a help page and a picture: the help page is opened first in one session
and last in the other, and the clock does not matter to it. -/
theorem dispatchAll_interleaved_help :
    let date := (Event.eruptDateChanged, 5)
    let frames := [(Event.previousRunRequested "s1", 0), (Event.imageRequested "run/", 0)]
    let session := (Event.helpRequested "date.html", 0) :: date :: frames
    let session' := frames ++ [date, (Event.helpRequested "date.html", 9)]
    (∀ group : EventGroup, group.ownSession session = group.ownSession session') ∧
      (dispatchAll {} session {}).2 = (dispatchAll {} session' {}).2 := by
  intro date frames session session'
  have h : ∀ group : EventGroup, group.ownSession session = group.ownSession session' := by
    intro group
    cases group <;> rfl
  exact ⟨h, (dispatchAll_interleaved {} {} h).1⟩

end PlumeForm
