import PlumeForm.Proofs.Page.Atomicity
import PlumeForm.Proofs.Page.Reopening

/-!
# What a page records

A page records where its two frames were sent, which windows were opened and which messages were
shown, and each of the four records can be taken away at any time. What was taken, and then what is
still there, is what was there at the start, and then one entry for each event that makes one
(`records_conserved`).
-/

namespace PlumeForm

/-! ## Records -/

/-- The four records of a page, first entries first. -/
@[ext] structure Records where
  params : List Navigation := []
  display : List Navigation := []
  opened : List WindowRequest := []
  alerts : List String := []

/-- Of each kind the entries of the one, and then those of the other. -/
instance : Append Records where
  append r s :=
    ⟨r.params ++ s.params, r.display ++ s.display, r.opened ++ s.opened, r.alerts ++ s.alerts⟩

namespace Records

@[simp] theorem params_append (r s : Records) : (r ++ s).params = r.params ++ s.params := rfl

@[simp] theorem display_append (r s : Records) : (r ++ s).display = r.display ++ s.display := rfl

@[simp] theorem opened_append (r s : Records) : (r ++ s).opened = r.opened ++ s.opened := rfl

@[simp] theorem alerts_append (r s : Records) : (r ++ s).alerts = r.alerts ++ s.alerts := rfl

theorem append_assoc (r s t : Records) : r ++ s ++ t = r ++ (s ++ t) := by
  ext1 <;> simp

@[simp] theorem nil_append (r : Records) : ({} : Records) ++ r = r := rfl

@[simp] theorem append_nil (r : Records) : r ++ ({} : Records) = r := by
  ext1 <;> simp

end Records

/-- What the page has recorded. -/
def Page.records (page : Page) : Records :=
  ⟨page.paramsFrame.navigations, page.displayFrame.navigations, page.window.opened,
    page.window.alerts⟩

/-! ## Entries -/

/-- The entry that a target makes in the record of a frame. -/
def Frame.entry (frame : Frame) (target : String) : Navigation :=
  ⟨target, frame.resolve target⟩

/-- The entries that an event makes on the page that it meets. Five events make theirs in any case;
the other ones may fail, and have the texts that they read when they succeed. -/
def Event.entries (settings : Settings) (page : Page) :
    Event → Except EventError Outcome → Records
  | movieRequested url, _ => { display := [page.displayFrame.entry url] }
  | displayReset, _ => { display := [page.displayFrame.entry settings.endpoints.placeholderImage] }
  | defaultOptionsRequested session previous, _ =>
    { display :=
        [page.displayFrame.entry
          ((Endpoint.ashxpOptions previous session).target settings.endpoints)] }
  | helpRequested url, _ =>
    { opened := [⟨url, some settings.helpWindowName, some settings.helpWindow⟩] }
  | mapOptionsRequested, _ => { opened := [⟨settings.endpoints.mapOptionsScript, none, none⟩] }
  | previousRunRequested session, .ok _ =>
    let previous := (page.paramsFrame.formText? settings.runParamsForm .previous).getD ""
    { params :=
        [page.paramsFrame.entry ((Endpoint.runParams previous session).target settings.endpoints)]
      display :=
        [page.displayFrame.entry
          ((Endpoint.ashxpOptions previous session).target settings.endpoints)] }
  | imageRequested workingDir, .ok _ =>
    { display := [page.displayFrame.entry (workingDir ++ (page.ashxpForm.text? .image).getD "")] }
  | _, .ok _ => {}
  | _, .error e =>
    match e.source with
    | .badEruptionDate _ => { alerts := [badEruptionDateText] }
    | _ => {}

/-! ## Events -/

theorem Page.records_display (page : Page) (target : String) :
    (page.display target).records =
      page.records ++ { display := [page.displayFrame.entry target] } := by
  ext1 <;> simp [records, display, Frame.entry]

theorem Page.records_reopen (page : Page) (settings : Settings) (session previous : String) :
    (page.reopen settings session previous).records =
      page.records ++
        { params :=
            [page.paramsFrame.entry
              ((Endpoint.runParams previous session).target settings.endpoints)]
          display :=
            [page.displayFrame.entry
              ((Endpoint.ashxpOptions previous session).target settings.endpoints)] } := by
  ext1 <;> simp [records, reopen, Frame.entry]

theorem Page.records_popUp (page : Page) (request : WindowRequest) :
    (page.popUp request).records = page.records ++ { opened := [request] } := by
  ext1 <;> simp [records, popUp, Window.popUp]

theorem Page.records_rejectDate (page : Page) :
    page.rejectDate.records = page.records ++ { alerts := [badEruptionDateText] } := by
  ext1 <;> simp [records, rejectDate, Window.alert]

/-- An event that goes nowhere, opens nothing and alerts nobody leaves the records. -/
theorem Page.Reaches.records_eq {page after : Page} {group : EventGroup}
    (h : page.Reaches group after) (hframes : group ≠ .frames) (hpopups : group ≠ .popups)
    (halerts : after.window.alerts = page.window.alerts) : after.records = page.records := by
  rw [Page.records, Page.records, h.paramsFrame_eq hframes, h.displayFrame_eq hframes,
    h.opened_eq hpopups, halerts]

/-- The records after an event that succeeds. -/
theorem Event.records_effect_of_ok {settings : Settings} {now : Int} {page after : Page}
    {event : Event} {outcome : Outcome}
    (h : event.effect settings now page = (.ok outcome, after)) :
    after.records = page.records ++ event.entries settings page (.ok outcome) := by
  have hreaches := event.reaches_effect settings now page
  have hatomic := page.atomic_effect settings event now
  rw [h] at hreaches hatomic
  cases event with
  | volcanoSelected | unknownVolcanoRequested count | eruptDateChanged | runOptionsSubmitted =>
    refine (hreaches.records_eq EventGroup.noConfusion EventGroup.noConfusion hatomic).trans ?_
    exact (Records.append_nil _).symm
  | previousRunRequested session =>
    cases hprevious : page.previous? settings with
    | none =>
      rw [effect_previousRunRequested_of_none session now hprevious] at h
      cases h
    | some previous =>
      rw [effect_previousRunRequested_of_some session now hprevious] at h
      cases h
      unfold Page.previous? at hprevious
      rw [Page.records_reopen, entries, hprevious, Option.getD_some]
  | imageRequested workingDir =>
    cases himage : page.ashxpForm.text? .image with
    | none =>
      simp only [Event.effect, Form.get, himage] at h
      cases h
    | some image =>
      simp only [Event.effect, Form.get, himage] at h
      cases h
      rw [Page.records_display, entries, himage, Option.getD_some]
  | movieRequested url | displayReset | defaultOptionsRequested session previous =>
    cases h
    exact page.records_display _
  | helpRequested url | mapOptionsRequested =>
    cases h
    exact page.records_popUp _

/-- The records after an event that fails. -/
theorem Event.records_effect_of_error {settings : Settings} {now : Int} {page after : Page}
    {event : Event} {e : FormError}
    (h : event.effect settings now page = (.error e, after)) :
    after.records =
      page.records ++ event.entries settings page (.error (EventError.ofEvent event e)) := by
  have hatomic := page.atomic_effect settings event now
  rw [h] at hatomic
  cases event with
  | movieRequested url | displayReset | defaultOptionsRequested session previous
  | helpRequested url | mapOptionsRequested => cases h
  | _ =>
    cases e with
    | badEruptionDate value =>
      obtain ⟨-, hafter⟩ := hatomic
      rw [hafter, Page.records_rejectDate]
      rfl
    | _ =>
      have hafter : after = page := hatomic
      rw [hafter]
      exact (Records.append_nil _).symm

/-- An event makes its entries, at the end of the records. -/
theorem records_dispatch (settings : Settings) (event : Event) (now : Int) (page : Page) :
    (dispatch settings event now page).2.records =
      page.records ++ event.entries settings page (dispatch settings event now page).1 := by
  rw [dispatch_eq]
  cases h : event.effect settings now page with
  | mk result after =>
  cases result with
  | ok outcome => exact Event.records_effect_of_ok h
  | error e => exact Event.records_effect_of_error h

/-! ## Sessions in which records are taken away -/

/-- Something that is done to a page: an event happens, or one of the records is taken away. -/
inductive Page.Step where
  | event (event : Event) (now : Int)
  | takeParams
  | takeDisplay
  | takeOpened
  | takeAlerts

namespace Page

/-- What a step takes away, and the page after it. -/
def perform (settings : Settings) (page : Page) : Step → Records × Page
  | .event event now => ({}, (dispatch settings event now page).2)
  | .takeParams =>
    let (params, paramsFrame) := page.paramsFrame.takeNavigations
    ({ params }, { page with paramsFrame })
  | .takeDisplay =>
    let (display, displayFrame) := page.displayFrame.takeNavigations
    ({ display }, { page with displayFrame })
  | .takeOpened =>
    let (opened, window) := page.window.takeOpened
    ({ opened }, { page with window })
  | .takeAlerts =>
    let (alerts, window) := page.window.takeAlerts
    ({ alerts }, { page with window })

/-- All that the steps take away, and the page after the last one. -/
def performAll (settings : Settings) : List Step → Page → Records × Page
  | [], page => ({}, page)
  | step :: rest, page =>
    let (taken, after) := page.perform settings step
    let (more, final) := performAll settings rest after
    (taken ++ more, final)

/-- The entries that a step makes on the page that it meets. -/
def entriesOf (settings : Settings) (page : Page) : Step → Records
  | .event event now => event.entries settings page (dispatch settings event now page).1
  | _ => {}

/-- The entries that the steps make, in their order. -/
def entriesOfAll (settings : Settings) : List Step → Page → Records
  | [], _ => {}
  | step :: rest, page =>
    page.entriesOf settings step ++ entriesOfAll settings rest (page.perform settings step).2

/-- A step takes away the first entries, if any, and makes new ones behind the last. -/
theorem records_perform (settings : Settings) (page : Page) (step : Step) :
    (page.perform settings step).1 ++ (page.perform settings step).2.records =
      page.records ++ page.entriesOf settings step := by
  cases step with
  | event event now => exact records_dispatch settings event now page
  | takeParams | takeDisplay | takeOpened | takeAlerts =>
    ext1 <;> simp [perform, entriesOf, records, Frame.takeNavigations, Window.takeOpened,
      Window.takeAlerts]

/-- Nothing that is recorded gets lost, comes twice or changes its place: what the steps take away,
followed by what is recorded after them, is what was recorded before them, followed by the entries
of their events. -/
theorem records_conserved (settings : Settings) (steps : List Step) (page : Page) :
    (performAll settings steps page).1 ++ (performAll settings steps page).2.records =
      page.records ++ entriesOfAll settings steps page := by
  induction steps generalizing page with
  | nil => exact (Records.append_nil _).symm
  | cons step rest ih =>
    have hstep := page.records_perform settings step
    calc (performAll settings (step :: rest) page).1 ++
          (performAll settings (step :: rest) page).2.records
        = (page.perform settings step).1 ++
            ((performAll settings rest (page.perform settings step).2).1 ++
              (performAll settings rest (page.perform settings step).2).2.records) :=
          Records.append_assoc _ _ _
      _ = (page.perform settings step).1 ++ ((page.perform settings step).2.records ++
            entriesOfAll settings rest (page.perform settings step).2) := by rw [ih]
      _ = page.records ++ entriesOfAll settings (step :: rest) page := by
          rw [← Records.append_assoc, hstep, Records.append_assoc]
          rfl

end Page

end PlumeForm
