import PlumeForm.Proofs.Page.Atomicity

/-!
# How events fail

What can be wrong with a page when an event comes, and the kind of trouble that it is filed under
(`Page.Fails`): six events have causes of their own, and the other five have none. An event fails
exactly if something is wrong (`dispatch_error_iff`), and its failure names a thing that is
(`dispatch_fails`).
-/

namespace PlumeForm

/-- What is wrong with a page for an event: the kind of trouble and the failure. -/
inductive Page.Fails (page : Page) (settings : Settings) (now : Int) :
    Event → Category → FormError → Prop
  | noSelection (h : page.runForm.selected = none) :
    Fails page settings now .volcanoSelected .selection .noSelection
  | selectionOutOfRange {index : Nat} (hselected : page.runForm.selected = some index)
      (hrange : page.volcanoes.length ≤ index) :
    Fails page settings now .volcanoSelected .selection
      (.selectionOutOfRange index page.volcanoes.length)
  | volcanoControl {f : Field} (hf : f ∈ [Field.lat, .lon, .plumeMin, .area])
      (hmissing : page.runForm.has f = false) :
    Fails page settings now .volcanoSelected .form (.missingField f)
  | noUnknownEntry :
    Fails page settings now (.unknownVolcanoRequested 0) .selection .noUnknownEntry
  | badEruptionDate {text : String} (htext : page.runForm.text? .eruptDate = some text)
      (hrejected :
        settings.eruptionDateCheck.accepts (settings.dateValue now text) = false) :
    Fails page settings now .eruptDateChanged .validation
      (.badEruptionDate (settings.dateValue now text))
  | dateControl (hmissing : page.runForm.has .eruptDate = false) :
    Fails page settings now .eruptDateChanged .form (.missingField .eruptDate)
  | invalidNumber {f : Field} (hf : f ∈ [Field.runHours, .eruptHours, .saveHours]) {text : String}
      (htext : page.runForm.text? f = some text) (hgiven : RunOptions.IsGiven text)
      (hnumber : RunOptions.hours? text = none) :
    Fails page settings now .runOptionsSubmitted .validation (.invalidNumber f text)
  | optionControl {f : Field}
      (hf : f ∈ [Field.runHours, .eruptHours, .saveHours, .phiDist, .ashLogMean, .ashLogSdev])
      (hmissing : page.runForm.has f = false) :
    Fails page settings now .runOptionsSubmitted .form (.missingField f)
  | previousRun {session : String}
      (hmissing : page.paramsFrame.formText? settings.runParamsForm .previous = none) :
    Fails page settings now (.previousRunRequested session) .navigation (.missingField .previous)
  | image {workingDir : String} (hmissing : page.ashxpForm.has .image = false) :
    Fails page settings now (.imageRequested workingDir) .form (.missingField .image)

namespace Page

variable {page : Page} {settings : Settings} {now : Int} {event : Event} {category : Category}
  {e : FormError}

/-! ## A failure names what is wrong -/

theorem fst_settle_eq_error_iff {plan : Except FormError (Outcome × Page)} :
    (settle page plan).1 = .error e ↔ plan = .error e := by
  cases plan with
  | ok result =>
    constructor
    · intro h
      cases h
    · intro h
      cases h
  | error e' =>
    constructor
    · intro h
      cases h
      rfl
    · intro h
      cases h
      rfl

theorem map_eq_error_iff {α β : Type} {f : α → β} {plan : Except FormError α} :
    plan.map f = .error e ↔ plan = .error e := by
  cases plan <;> simp [Except.map]

theorem settle_planForm_eq_error_iff {α : Type} {outcome : α → Outcome}
    {plan : Except FormError (α × Form)} :
    (settle page (page.planForm outcome plan)).1 = .error e ↔ plan = .error e :=
  fst_settle_eq_error_iff.trans map_eq_error_iff

theorem fails_of_checkDate (h : (page.checkDate settings now).1 = .error e) :
    page.Fails settings now .eruptDateChanged (EventError.categoryOf .eruptDateChanged e) e := by
  unfold checkDate at h
  cases htext : page.runForm.text? .eruptDate with
  | none =>
    rw [htext] at h
    cases h
    refine .dateControl ?_
    rw [Form.has, htext]
    rfl
  | some text =>
    rw [htext] at h
    dsimp only at h
    split at h
    · cases h
    · next hrejected =>
      cases h
      exact .badEruptionDate htext (Bool.eq_false_iff.2 hrejected)

theorem fails_of_previousRun {session : String} (h : previousRun settings page = .error e) :
    page.Fails settings now (.previousRunRequested session)
      (EventError.categoryOf (.previousRunRequested session) e) e := by
  unfold PlumeForm.previousRun at h
  split at h
  · cases h
  · next hmissing =>
    cases h
    exact .previousRun hmissing

theorem fails_of_effect (h : (event.effect settings now page).1 = .error e) :
    page.Fails settings now event (EventError.categoryOf event e) e := by
  cases event with
  | volcanoSelected =>
    rcases Selection.error_of_plan (settle_planForm_eq_error_iff.1 h) with
      ⟨hnone, rfl⟩ | ⟨index, hselected, hrange, rfl⟩ | ⟨f, hf, hmissing, rfl⟩
    · exact .noSelection hnone
    · exact .selectionOutOfRange hselected hrange
    · exact .volcanoControl hf hmissing
  | unknownVolcanoRequested count =>
    obtain ⟨rfl, rfl⟩ := Selection.error_of_unknownPlan (settle_planForm_eq_error_iff.1 h)
    exact .noUnknownEntry
  | eruptDateChanged => exact fails_of_checkDate h
  | runOptionsSubmitted =>
    rcases RunOptions.error_of_plan (settle_planForm_eq_error_iff.1 h) with
      ⟨f, hf, hmissing, rfl⟩ | ⟨f, hf, text, htext, hgiven, hnumber, rfl⟩
    · exact .optionControl hf hmissing
    · exact .invalidNumber hf htext hgiven hnumber
  | previousRunRequested session =>
    exact fails_of_previousRun (map_eq_error_iff.1 (fst_settle_eq_error_iff.1 h))
  | imageRequested workingDir =>
    have himage := map_eq_error_iff.1 (fst_settle_eq_error_iff.1 h)
    obtain ⟨hmissing, rfl⟩ := Form.get_eq_error_iff.1 himage
    exact .image hmissing
  | movieRequested url | helpRequested url | displayReset | mapOptionsRequested
  | defaultOptionsRequested session previous => cases h

/-! ## Whatever is wrong makes the event fail -/

theorem exists_error_of_ne_ok {α : Type} {plan : Except FormError α} (h : ∀ a, plan ≠ .ok a) :
    ∃ e, plan = .error e := by
  cases plan with
  | ok a => exact absurd rfl (h a)
  | error e => exact ⟨e, rfl⟩

theorem Fails.exists_error_of_populate (h : page.Fails settings now .volcanoSelected category e) :
    ∃ e', Selection.plan page.volcanoes page.runForm = .error e' := by
  refine exists_error_of_ne_ok fun ⟨volcano, form⟩ hplan => ?_
  obtain ⟨hchosen, hcontrols, -⟩ := Selection.plan_eq_ok_iff.1 hplan
  unfold Selection.chosenIn at hchosen
  cases h with
  | noSelection hnone =>
    rw [hnone] at hchosen
    cases hchosen
  | selectionOutOfRange hselected hrange =>
    rw [hselected] at hchosen
    have hvolcano := VolcanoTable.get_eq_ok_iff.1 hchosen
    rw [List.getElem?_eq_none hrange] at hvolcano
    cases hvolcano
  | volcanoControl hf hmissing =>
    rw [hcontrols _ hf] at hmissing
    cases hmissing

theorem Fails.exists_error_of_reconcile
    (h : page.Fails settings now .runOptionsSubmitted category e) :
    ∃ e', RunOptions.plan page.runForm = .error e' := by
  refine exists_error_of_ne_ok fun ⟨adjustments, form⟩ hplan => ?_
  obtain ⟨t, n, ht, hn, -, -⟩ := RunOptions.plan_eq_ok_iff.1 hplan
  cases h with
  | @invalidNumber f hf text htext hgiven hnumber =>
    obtain ⟨x, hx⟩ := RunOptions.exists_readHours_of_readNumbers ht hn hf htext
    rw [RunOptions.readHours_of_hours_eq_none f hgiven hnumber] at hx
    cases hx
  | optionControl hf hmissing =>
    have hrequire : page.runForm.require RunOptions.controls = .ok () := by
      rw [← RunOptions.map_readTexts, ht]
      rfl
    rw [Form.require_eq_ok_iff.1 hrequire _ hf] at hmissing
    cases hmissing

theorem Fails.exists_error_of_checkDate
    (h : page.Fails settings now .eruptDateChanged category e) :
    ∃ e', (page.checkDate settings now).1 = .error e' := by
  unfold checkDate
  cases h with
  | badEruptionDate htext hrejected =>
    rw [htext]
    dsimp only
    rw [hrejected]
    exact ⟨_, rfl⟩
  | dateControl hmissing =>
    rw [Form.has, Option.isSome_eq_false_iff, Option.isNone_iff_eq_none] at hmissing
    rw [hmissing]
    exact ⟨_, rfl⟩

theorem Fails.exists_error_of_effect (h : page.Fails settings now event category e) :
    ∃ e', (event.effect settings now page).1 = .error e' := by
  cases event with
  | volcanoSelected =>
    obtain ⟨e', hplan⟩ := h.exists_error_of_populate
    exact ⟨e', settle_planForm_eq_error_iff.2 hplan⟩
  | unknownVolcanoRequested count =>
    cases h
    exact ⟨_, rfl⟩
  | eruptDateChanged => exact h.exists_error_of_checkDate
  | runOptionsSubmitted =>
    obtain ⟨e', hplan⟩ := h.exists_error_of_reconcile
    exact ⟨e', settle_planForm_eq_error_iff.2 hplan⟩
  | previousRunRequested session =>
    cases h with
    | previousRun hmissing =>
      refine ⟨.missingField .previous, fst_settle_eq_error_iff.2 (map_eq_error_iff.2 ?_)⟩
      rw [PlumeForm.previousRun, hmissing]
  | imageRequested workingDir =>
    cases h with
    | image hmissing =>
      have himage := Form.get_eq_error_iff.2 ⟨hmissing, rfl⟩
      exact ⟨_, fst_settle_eq_error_iff.2 (map_eq_error_iff.2 himage)⟩
  | movieRequested url | helpRequested url | displayReset | mapOptionsRequested
  | defaultOptionsRequested session previous => cases h

/-! ## What follows from the kinds of trouble -/

theorem Fails.ne_configuration (h : page.Fails settings now event category e) :
    category ≠ .configuration ∧ e.code ≠ .volcanoList := by
  cases h <;> exact ⟨Category.noConfusion, ErrorCode.noConfusion⟩

theorem Fails.eq_navigation_iff (h : page.Fails settings now event category e) :
    category = .navigation ↔ ∃ session, event = .previousRunRequested session := by
  cases h with
  | previousRun hmissing => exact ⟨fun _ => ⟨_, rfl⟩, fun _ => rfl⟩
  | _ => simp

end Page

section

variable {settings : Settings} {event : Event} {now : Int} {page after : Page} {e : EventError}

theorem dispatch_eq_error_iff :
    dispatch settings event now page = (.error e, after) ↔
      ∃ source, event.effect settings now page = (.error source, after) ∧
        e = EventError.ofEvent event source := by
  rw [dispatch_eq]
  rcases event.effect settings now page with ⟨result, after'⟩
  cases result with
  | ok outcome =>
    constructor
    · intro h
      cases h
    · rintro ⟨_, h, -⟩
      cases h
  | error source =>
    constructor
    · intro h
      cases h
      exact ⟨source, rfl, rfl⟩
    · rintro ⟨_, h, rfl⟩
      cases h
      rfl

/-- An event fails exactly if something is wrong for it. -/
theorem dispatch_error_iff :
    (∃ e, (dispatch settings event now page).1 = .error e) ↔
      ∃ category source, page.Fails settings now event category source := by
  constructor
  · rintro ⟨e, h⟩
    obtain ⟨source, heffect, -⟩ := dispatch_eq_error_iff.1 (Prod.ext h rfl)
    exact ⟨_, source, Page.fails_of_effect (congrArg Prod.fst heffect)⟩
  · rintro ⟨category, source, h⟩
    obtain ⟨cause, hcause⟩ := h.exists_error_of_effect
    exact ⟨_, congrArg Prod.fst (dispatch_eq_error_iff.2 ⟨cause, Prod.ext hcause rfl, rfl⟩)⟩

/-- An alert is the mark of a date that was rejected. -/
theorem userNotified_iff_alerts (h : dispatch settings event now page = (.error e, after)) :
    e.userNotified = true ↔ ∃ text, after.window.alerts = page.window.alerts ++ [text] := by
  obtain ⟨source, heffect, rfl⟩ := dispatch_eq_error_iff.1 h
  have hatomic := page.atomic_effect settings event now
  rw [heffect] at hatomic
  cases source with
  | badEruptionDate value =>
    obtain ⟨-, rfl⟩ := hatomic
    exact ⟨fun _ => ⟨badEruptionDateText, rfl⟩, fun _ => rfl⟩
  | _ =>
    -- The page is as it was, so its alerts have not grown.
    cases hatomic
    simp [EventError.ofEvent, EventError.userNotified]

/-- A failure is filed under its event and the kind of trouble that its cause means for the event.
It never has to do with the configuration or with volcano lists, it is one of navigation exactly if
an earlier run was to be opened again, and the user has been notified exactly if the event has
alerted them. -/
theorem dispatch_fails (h : dispatch settings event now page = (.error e, after)) :
    e.context = event.name ∧
      page.Fails settings now event e.category e.source ∧
      e.category ≠ .configuration ∧ e.source.code ≠ .volcanoList ∧
      (e.category = .navigation ↔ ∃ session, event = .previousRunRequested session) ∧
      (e.userNotified = true ↔ ∃ text, after.window.alerts = page.window.alerts ++ [text]) := by
  obtain ⟨source, heffect, rfl⟩ := dispatch_eq_error_iff.1 h
  have hfails : page.Fails settings now event (EventError.categoryOf event source) source :=
    Page.fails_of_effect (congrArg Prod.fst heffect)
  exact ⟨rfl, hfails, hfails.ne_configuration.1, hfails.ne_configuration.2,
    hfails.eq_navigation_iff, userNotified_iff_alerts h⟩

/-- An empty date is too short, and the user is told so. -/
theorem dispatch_fails_emptyDate :
    let e : EventError := ⟨.validation, "erupt_date_changed", .badEruptionDate ""⟩
    let after : Page := ({} : Page).rejectDate
    dispatch {} .eruptDateChanged 0 {} = (.error e, after) ∧
      ({} : Page).Fails {} 0 .eruptDateChanged .validation (.badEruptionDate "") ∧
      e.userNotified = true ∧ after.window.alerts = [badEruptionDateText] := by
  have h : dispatch {} .eruptDateChanged 0 {} =
      (.error ⟨.validation, "erupt_date_changed", .badEruptionDate ""⟩,
        ({} : Page).rejectDate) := by
    rw [dispatch_eq]
    rfl
  obtain ⟨-, hfails, -, -, -, hnotified⟩ := dispatch_fails h
  exact ⟨h, hfails, hnotified.2 ⟨badEruptionDateText, rfl⟩, rfl⟩

end

end PlumeForm
