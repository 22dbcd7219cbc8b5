import PlumeForm.Proofs.Page.Footprint
import PlumeForm.Proofs.Page.Session

/-!
# Opening an earlier run again

Which run is to be opened again is said by a control in the document of the parameter frame. Opening
it sends the frame away, and the control is gone with its document, so that no session opens an
earlier run twice (`previousRun_opens_once`). The frame goes nowhere for any other event.
-/

namespace PlumeForm

/-- The directory of an earlier run that the parameter frame's document names. -/
def Page.previous? (page : Page) (settings : Settings) : Option String :=
  page.paramsFrame.formText? settings.runParamsForm .previous

/-! ## One event -/

/-- The request for an earlier run that is not named. -/
theorem effect_previousRunRequested_of_none {settings : Settings} {page : Page} (session : String)
    (now : Int) (h : page.previous? settings = none) :
    (Event.previousRunRequested session).effect settings now page =
      (.error (.missingField .previous), page) := by
  unfold Page.previous? at h
  simp only [Event.effect, previousRun, h]
  rfl

/-- The request for an earlier run that is named. -/
theorem effect_previousRunRequested_of_some {settings : Settings} {page : Page} {previous : String}
    (session : String) (now : Int) (h : page.previous? settings = some previous) :
    (Event.previousRunRequested session).effect settings now page =
      (.ok .done, page.reopen settings session previous) := by
  unfold Page.previous? at h
  simp only [Event.effect, previousRun, h]
  rfl

/-- A request for an earlier run fails if none is named. -/
theorem dispatch_previousRunRequested_of_none {settings : Settings} {page : Page}
    (session : String) (now : Int) (h : page.previous? settings = none) :
    dispatch settings (.previousRunRequested session) now page =
      (.error ⟨.navigation, "previous_run_requested", .missingField .previous⟩, page) := by
  rw [dispatch_eq, effect_previousRunRequested_of_none session now h]
  rfl

/-- A request for an earlier run that is named sends both frames there. -/
theorem dispatch_previousRunRequested_of_some {settings : Settings} {page : Page}
    {previous : String} (session : String) (now : Int)
    (h : page.previous? settings = some previous) :
    dispatch settings (.previousRunRequested session) now page =
      (.ok .done, page.reopen settings session previous) := by
  rw [dispatch_eq, effect_previousRunRequested_of_some session now h]
  rfl

/-- A request for an earlier run succeeds exactly if one is named. -/
theorem dispatch_previousRunRequested_ok_iff {settings : Settings} {page : Page} (session : String)
    (now : Int) :
    (∃ outcome, (dispatch settings (.previousRunRequested session) now page).1 = .ok outcome) ↔
      ∃ previous, page.previous? settings = some previous := by
  cases h : page.previous? settings with
  | none =>
    rw [dispatch_previousRunRequested_of_none session now h]
    constructor
    · rintro ⟨_, hok⟩
      cases hok
    · rintro ⟨_, hsome⟩
      cases hsome
  | some previous =>
    rw [dispatch_previousRunRequested_of_some session now h]
    exact ⟨fun _ => ⟨previous, rfl⟩, fun _ => ⟨.done, rfl⟩⟩

/-- A request for an earlier run that fails leaves the page. -/
theorem dispatch_previousRunRequested_of_error {settings : Settings} {page : Page}
    {session : String} {now : Int} {e : EventError}
    (h : (dispatch settings (.previousRunRequested session) now page).1 = .error e) :
    (dispatch settings (.previousRunRequested session) now page).2 = page := by
  cases hprevious : page.previous? settings with
  | none => rw [dispatch_previousRunRequested_of_none session now hprevious]
  | some previous =>
    rw [dispatch_previousRunRequested_of_some session now hprevious] at h
    cases h

/-- After a request the parameter frame names no earlier run, whether it named one before or not. -/
theorem previous?_effect_previousRunRequested (settings : Settings) (session : String) (now : Int)
    (page : Page) :
    ((Event.previousRunRequested session).effect settings now page).2.previous? settings =
      none := by
  cases h : page.previous? settings with
  | none => rw [effect_previousRunRequested_of_none session now h, h]
  | some previous =>
    rw [effect_previousRunRequested_of_some session now h]
    exact Frame.formText?_navigate _ _ _ _

/-- No other event touches the parameter frame. -/
theorem Event.paramsFrame_effect (settings : Settings) (now : Int) (page : Page) {event : Event}
    (h : ∀ session, event ≠ .previousRunRequested session) :
    (event.effect settings now page).2.paramsFrame = page.paramsFrame := by
  have hreaches := event.reaches_effect settings now page
  cases event with
  | previousRunRequested session => exact absurd rfl (h session)
  | imageRequested workingDir =>
    unfold Event.effect
    cases page.ashxpForm.get .image <;> rfl
  | movieRequested url | displayReset | defaultOptionsRequested session previous => rfl
  | _ => exact hreaches.paramsFrame_eq EventGroup.noConfusion

theorem sessionQuery_eq (script previous session : String) :
    sessionQuery script previous session =
      script ++ ("?previous=" ++ previous ++ "&sessionID=" ++ session) := by
  simp only [sessionQuery, String.append_assoc]

/-! ## Sessions -/

/-- A frame that names no earlier run does not name one later on. -/
theorem previous?_dispatchAll_of_none {settings : Settings} (session : List (Event × Int))
    {page : Page} (h : page.previous? settings = none) :
    (dispatchAll settings session page).2.previous? settings = none := by
  refine dispatchAll_invariant (P := fun page => page.previous? settings = none)
    (fun event now page hpage => ?_) session page h
  rw [dispatch_eq]
  by_cases hevent : ∃ id, event = .previousRunRequested id
  · obtain ⟨id, rfl⟩ := hevent
    exact previous?_effect_previousRunRequested settings id now page
  · have hframe :=
      event.paramsFrame_effect settings now page fun id hid => hevent ⟨id, hid⟩
    rw [Page.previous?, hframe]
    exact hpage

/-- After a session with a request the parameter frame names no earlier run. -/
theorem previous?_dispatchAll_of_mem {settings : Settings} {session : List (Event × Int)}
    {id : String} {now : Int} (h : (Event.previousRunRequested id, now) ∈ session) (page : Page) :
    (dispatchAll settings session page).2.previous? settings = none := by
  induction session generalizing page with
  | nil => cases h
  | cons step rest ih =>
    obtain ⟨event, now'⟩ := step
    rw [dispatchAll_cons]
    rcases List.mem_cons.1 h with h | h
    · cases h
      refine previous?_dispatchAll_of_none rest ?_
      rw [dispatch_eq]
      exact previous?_effect_previousRunRequested settings id now page
    · exact ih h _

/-- A session without a request leaves the parameter frame as it was. -/
theorem paramsFrame_dispatchAll (settings : Settings) {session : List (Event × Int)}
    (h : ∀ id now, (Event.previousRunRequested id, now) ∉ session) (page : Page) :
    (dispatchAll settings session page).2.paramsFrame = page.paramsFrame := by
  refine part_dispatchAll Page.paramsFrame (fun step hmem page => ?_) page
  obtain ⟨event, now⟩ := step
  refine event.paramsFrame_effect settings now page fun id hevent => h id now ?_
  rw [← hevent]
  exact hmem

/-- After any session, a request for an earlier run fails if the session had one already, and the
first one succeeds exactly if the parameter frame of the page at the start names a run. A request
that succeeds sends both frames to the run that is named, for the session of the request, and one
that fails changes nothing. No other event sends the parameter frame anywhere. -/
theorem previousRun_opens_once (settings : Settings) (page : Page)
    (earlier : List (Event × Int)) (now : Int) :
    let before := (dispatchAll settings earlier page).2
    (∀ event, (∀ session, event ≠ .previousRunRequested session) →
      (dispatch settings event now before).2.paramsFrame = before.paramsFrame) ∧
    ∀ session,
      let step := dispatch settings (.previousRunRequested session) now before
      ((∃ id time, (.previousRunRequested id, time) ∈ earlier) →
        step.1 =
          .error ⟨.navigation, "previous_run_requested", .missingField .previous⟩) ∧
      ((∀ id time, (.previousRunRequested id, time) ∉ earlier) →
        ((∃ outcome, step.1 = .ok outcome) ↔
          ∃ previous, page.paramsFrame.formText? settings.runParamsForm .previous =
            some previous)) ∧
      (∀ outcome, step.1 = .ok outcome →
        ∃ previous,
          before.paramsFrame.formText? settings.runParamsForm .previous = some previous ∧
          let query := "?previous=" ++ previous ++ "&sessionID=" ++ session
          let params := settings.endpoints.runParamsScript ++ query
          let display := settings.endpoints.ashxpOptionsScript ++ query
          step.2.paramsFrame.navigations =
            before.paramsFrame.navigations ++ [⟨params, before.paramsFrame.resolve params⟩] ∧
          step.2.displayFrame.navigations =
            before.displayFrame.navigations ++ [⟨display, before.displayFrame.resolve display⟩]) ∧
      ∀ e, step.1 = .error e → step.2 = before := by
  intro before
  refine ⟨fun event hevent => ?_, fun session => ⟨?later, fun hfirst => ?first, ?sent, ?failed⟩⟩
  · rw [dispatch_eq]
    exact event.paramsFrame_effect settings now before hevent
  case later =>
    rintro ⟨id, time, hmem⟩
    rw [dispatch_previousRunRequested_of_none session now (previous?_dispatchAll_of_mem hmem page)]
  case first =>
    rw [dispatch_previousRunRequested_ok_iff, Page.previous?,
      paramsFrame_dispatchAll settings hfirst page]
  case sent =>
    intro outcome hok
    obtain ⟨previous, hprevious⟩ :=
      (dispatch_previousRunRequested_ok_iff session now).1 ⟨outcome, hok⟩
    rw [dispatch_previousRunRequested_of_some session now hprevious]
    refine ⟨previous, hprevious, ?_, ?_⟩
    · rw [← sessionQuery_eq]
      rfl
    · rw [← sessionQuery_eq]
      rfl
  case failed => exact fun e herror => dispatch_previousRunRequested_of_error herror

end PlumeForm
