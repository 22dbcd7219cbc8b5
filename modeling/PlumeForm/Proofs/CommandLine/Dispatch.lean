import PlumeForm.CommandLine.Run
import PlumeForm.Proofs.Page.Failures

/-!
# A command line is one event

Every command but the one that shows the volcano table fires one event (`Command.event?`) on a page
that is set up for it: the run form has its eleven controls, with the texts of the command
(`Command.textFor`), and a volcano is selected if the command selects one. `Setup` is what has to be
found out for that. Once it is, the command shows one transcript of the event and fails exactly if
the event does (`Shows`); when it cannot be found out, the command shows nothing and fails
(`read_run_of_event`).
-/

namespace PlumeForm.CommandLine

/-! ## The event of a command -/

/-- The event that a command fires; to show the volcano table takes none. -/
def Command.event? : Command → Option Event
  | volcanoes => none
  | populate _ => some .volcanoSelected
  | checkDate _ => some .eruptDateChanged
  | reconcile _ => some .runOptionsSubmitted
  | runParams _ session => some (.previousRunRequested session)
  | defaultOptions previous session => some (.defaultOptionsRequested session previous)
  | mapOptions => some .mapOptionsRequested
  | helpWindow url => some (.helpRequested url)

/-- The text that belongs into a control. -/
def RunTexts.textFor (texts : RunTexts) : Field → String
  | .runHours => texts.runHours
  | .eruptHours => texts.eruptHours
  | .saveHours => texts.saveHours
  | .phiDist => texts.phiDist
  | .ashLogMean => texts.ashLogMean
  | .ashLogSdev => texts.ashLogSdev
  | _ => ""

/-- The text that a command gives for a control of the run form. -/
def Command.textFor : Command → Field → String
  | checkDate date, .eruptDate => date
  | reconcile texts, f => texts.textFor f
  | _, _ => ""

/-- The earlier run that a command gives to the parameter frame. -/
def Command.previous? : Command → Option String
  | runParams previous _ => some previous
  | _ => none

/-! ## What is set up -/

/-- What a command has found out before it fires its event: the settings, and for a selection the
volcanoes and the index of one. -/
structure Setup where
  settings : Settings
  volcanoes : VolcanoTable := .empty
  selected : Option Nat := none

/-- The set-up of an invocation, or the reasons for which there is none. -/
def setup (around : Surroundings) (invocation : Invocation) : Except (List String) Setup := do
  let settings ← loadSettings around invocation
  match invocation.command with
  | .populate choice =>
    let volcanoes ← loadVolcanoes around invocation settings
    let index ← indexOf volcanoes choice
    return ⟨settings, volcanoes, some index⟩
  | _ => return { settings }

/-- The page on which a command fires its event. -/
def Setup.page (s : Setup) (command : Command) : Page where
  runForm :=
    ⟨s.selected, fun f => if f ∈ Field.runControls then some (command.textFor f) else none⟩
  ashxpForm := Form.ashxp
  paramsFrame :=
    { name := "runParams"
      formText? := fun form f =>
        if form = s.settings.runParamsForm ∧ f = .previous then command.previous? else none }
  displayFrame := { name := "ashxp" }
  window := {}
  volcanoes := s.volcanoes

/-- The result of the event of a command, and the page after it. -/
def Setup.dispatch (s : Setup) (command : Command) (event : Event) (now : Int) :
    Except EventError Outcome × Page :=
  PlumeForm.dispatch s.settings event now (s.page command)

/-! ## Commands fire their events -/

/-- A page that differs from the empty one in its run form and its volcanoes only. -/
theorem Setup.page_eq {s : Setup} {command : Command} {form : Form}
    (hprevious : command.previous? = none) (hselected : form.selected = s.selected)
    (htext : ∀ f, form.text? f =
      if f ∈ Field.runControls then some (command.textFor f) else none) :
    s.page command = { runForm := form, volcanoes := s.volcanoes } := by
  have hform : form = ⟨s.selected, fun f =>
      if f ∈ Field.runControls then some (command.textFor f) else none⟩ :=
    Form.ext hselected htext
  rw [hform, page, hprevious]
  simp only [ite_self]
  rfl

section

variable (settings : Settings)

theorem page_checkDate (date : String) :
    Setup.page { settings } (.checkDate date) = pageOf [(.eruptDate, date)] :=
  Setup.page_eq rfl rfl fun f => by cases f <;> rfl

theorem page_reconcile (texts : RunTexts) :
    Setup.page { settings } (.reconcile texts) = pageOf texts.entries :=
  Setup.page_eq rfl rfl fun f => by cases f <;> rfl

theorem page_runParams (previous session : String) :
    Setup.page { settings } (.runParams previous session) = pageOfRun settings previous := by
  have hform : Form.run = ⟨none, fun f =>
      if f ∈ Field.runControls then some ((Command.runParams previous session).textFor f)
      else none⟩ := Form.ext rfl fun f => rfl
  rw [pageOfRun, hform]
  rfl

theorem page_of_textFor_eq {command : Command} (hprevious : command.previous? = none)
    (htext : ∀ f, command.textFor f = "") : Setup.page { settings } command = {} :=
  Setup.page_eq hprevious rfl fun f => by rw [htext]; rfl

end

section

variable {around : Surroundings} {invocation : Invocation} {settings : Settings} {event : Event}

/-- What an event comes to after the set-up. -/
def fireAfter (around : Surroundings) (command : Command) (event : Event) :
    Except (List String) Setup → Conclusion
  | .ok s => fire around s.settings (s.page command) event
  | .error reasons => .refused reasons

theorem runCommand_of_populate {choice : Option Choice}
    (hsettings : loadSettings around invocation = .ok settings)
    (hcommand : invocation.command = .populate choice) :
    runCommand around invocation settings =
      fireAfter around invocation.command .volcanoSelected (setup around invocation) := by
  unfold runCommand setup
  rw [hsettings, hcommand]
  dsimp only [populate, bind, Except.bind]
  cases loadVolcanoes around invocation settings with
  | error reasons => rfl
  | ok volcanoes =>
    dsimp only
    cases indexOf volcanoes choice with
    | error reasons => rfl
    | ok index =>
      have hpage : Setup.page ⟨settings, volcanoes, some index⟩ (.populate choice) =
          { runForm := Form.run.select index, volcanoes := volcanoes } :=
        Setup.page_eq rfl rfl fun f => rfl
      exact congrArg (fire around settings · .volcanoSelected) hpage.symm

theorem setup_of_ne_populate (hsettings : loadSettings around invocation = .ok settings)
    (hcommand : ∀ choice, invocation.command ≠ .populate choice) :
    setup around invocation = .ok { settings } := by
  unfold setup
  rw [hsettings]
  cases hc : invocation.command with
  | populate choice => exact absurd hc (hcommand choice)
  | _ => rfl

theorem runCommand_of_ne_populate (hevent : invocation.command.event? = some event)
    (hcommand : ∀ choice, invocation.command ≠ .populate choice) :
    runCommand around invocation settings =
      fire around settings (Setup.page { settings } invocation.command) event := by
  unfold runCommand
  generalize invocation.command = command at hevent hcommand
  cases command with
  | volcanoes => cases hevent
  | populate choice => exact absurd rfl (hcommand choice)
  | checkDate date =>
    cases hevent
    rw [page_checkDate]
  | reconcile texts =>
    cases hevent
    rw [page_reconcile]
  | runParams previous session =>
    cases hevent
    rw [page_runParams]
  | defaultOptions previous session =>
    cases hevent
    rw [page_of_textFor_eq settings rfl fun f => rfl]
  | mapOptions =>
    cases hevent
    rw [page_of_textFor_eq settings rfl fun f => rfl]
  | helpWindow url =>
    cases hevent
    rw [page_of_textFor_eq settings rfl fun f => rfl]

/-- A command with an event comes to what the event does after the set-up. -/
theorem run_eq_fireAfter (hevent : invocation.command.event? = some event) :
    run around invocation =
      fireAfter around invocation.command event (setup around invocation) := by
  unfold run
  cases hsettings : loadSettings around invocation with
  | error reasons =>
    have hsetup : setup around invocation = .error reasons := by
      unfold setup
      rw [hsettings]
      rfl
    rw [hsetup]
    rfl
  | ok settings =>
    -- Only a selection sets up more than the settings.
    by_cases hpopulate : ∃ choice, invocation.command = .populate choice
    · obtain ⟨choice, hcommand⟩ := hpopulate
      have hvolcano : event = .volcanoSelected := by
        rw [hcommand] at hevent
        exact (Option.some.inj hevent).symm
      rw [hvolcano]
      exact runCommand_of_populate hsettings hcommand
    · have hcommand : ∀ choice, invocation.command ≠ .populate choice :=
        fun choice heq => hpopulate ⟨choice, heq⟩
      rw [setup_of_ne_populate hsettings hcommand]
      exact runCommand_of_ne_populate hevent hcommand

end

/-! ## Transcripts -/

/-- The members of an object are the transcript of an event: what came of it, and the page after
it. -/
structure IsTranscript (members : List (String × Json)) (result : Except EventError Outcome)
    (page : Page) : Prop where
  /-- No member stands twice. -/
  names : (members.map (·.1)).Nodup
  outcome : Json.member? members "outcome" =
    match result with
    | .ok outcome => some outcome.toJson
    | .error _ => none
  error : Json.member? members "error" =
    match result with
    | .ok _ => none
    | .error e => some e.source.report.toJson
  runForm : Json.member? members "run_form" = some page.runForm.toJson
  paramsFrame : Json.member? members "params_frame" = some page.paramsFrame.toJson
  displayFrame : Json.member? members "display_frame" = some page.displayFrame.toJson
  openedWindows : Json.member? members "opened_windows" =
    some (.list (page.window.opened.map WindowRequest.toJson))
  alerts : Json.member? members "alerts" = some (.list (page.window.alerts.map .text))

theorem exists_isTranscript (result : Except EventError Outcome) (page : Page) :
    ∃ members, IsTranscript members result page ∧ transcript result page = .object members := by
  refine ⟨_, ?_, rfl⟩
  cases result with
  | ok outcome =>
    constructor
    case names =>
      show ["outcome", "run_form", "params_frame", "display_frame", "opened_windows",
        "alerts"].Nodup
      decide
    all_goals rfl
  | error e =>
    constructor
    case names =>
      show ["error", "run_form", "params_frame", "display_frame", "opened_windows",
        "alerts"].Nodup
      decide
    all_goals rfl

/-- The reasons for which a command fails, by what came of its event. -/
def reasonsOf (event : Event) : Except EventError Outcome → Option (List String)
  | .ok _ => none
  | .error e => some [event.name ++ " failed: " ++ e.source.message]

section

variable {around : Surroundings} {args : List String} {invocation : Invocation} {event : Event}

theorem fire_eq {settings : Settings} {page after : Page} {result : Except EventError Outcome}
    (h : dispatch settings event around.now page = (result, after)) :
    fire around settings page event =
      { output := shown (transcript result after), failure := reasonsOf event result } := by
  unfold fire
  rw [h]
  cases result with
  | ok outcome => rfl
  | error e =>
    obtain ⟨source, -, rfl⟩ := dispatch_eq_error_iff.1 h
    rfl

/-! ## The command line -/

/-- A command line shows the transcript of an event on a page, and fails exactly if the event
does. -/
def Shows (around : Surroundings) (settings : Settings) (args : List String) (event : Event)
    (page : Page) : Prop :=
  ∃ members result after,
    dispatch settings event around.now page = (result, after) ∧
      IsTranscript members result after ∧
      (Invocation.read args).map (run around) =
        .ok { output := (Json.object members).spread ++ "\n", failure := reasonsOf event result }

theorem shows_of_setup (hread : Invocation.read args = .ok invocation)
    (hevent : invocation.command.event? = some event) {s : Setup}
    (hsetup : setup around invocation = .ok s) :
    Shows around s.settings args event (s.page invocation.command) := by
  rcases hdispatch : dispatch s.settings event around.now (s.page invocation.command) with
    ⟨result, after⟩
  obtain ⟨members, hmembers, htranscript⟩ := exists_isTranscript result after
  refine ⟨members, result, after, hdispatch, hmembers, ?_⟩
  rw [hread]
  refine congrArg Except.ok ?_
  rw [run_eq_fireAfter hevent, hsetup, fireAfter, fire_eq hdispatch, htranscript]
  rfl

/-- Nothing but the commands and the time. -/
def bare (now : Int) : Surroundings := ⟨.ofPaths [], [], now⟩

end

end PlumeForm.CommandLine
