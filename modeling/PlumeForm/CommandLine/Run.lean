import PlumeForm.CommandLine.Invocation
import PlumeForm.CommandLine.Transcript
import PlumeForm.Settings.Loader
import PlumeForm.VolcanoFile

/-!
# Carrying out commands

Settings are loaded first. A command that needs volcanoes loads them next, from the list named on
the command line or else in the settings. Every other command fires one event on a fresh page.
-/

namespace PlumeForm.CommandLine

/-- What a command comes to: what it shows, and the reasons of its failure, outermost first. -/
structure Conclusion where
  output : String := ""
  failure : Option (List String) := none
deriving DecidableEq, Repr

namespace Conclusion

/-- The command fails before it shows anything. -/
def refused (reasons : List String) : Conclusion :=
  { failure := some reasons }

/-- The command worked. -/
def succeeded (c : Conclusion) : Bool :=
  c.failure.isNone

end Conclusion

/-- What a command finds around it: files, variables and the time. -/
structure Surroundings where
  files : Files
  environment : Environment
  now : Int

/-- The settings of an invocation. -/
def loadSettings (around : Surroundings) (invocation : Invocation) :
    Except (List String) Settings :=
  match invocation.settings with
  | some path =>
    (Settings.load around.files around.environment path).mapError fun e =>
      ["failed to load settings '" ++ path ++ "'", e.message]
  | none =>
    (Settings.load around.files around.environment Settings.defaultFile).mapError fun e =>
      ["failed to load settings", e.message]

/-- The volcanoes of an invocation. -/
def loadVolcanoes (around : Surroundings) (invocation : Invocation) (settings : Settings) :
    Except (List String) VolcanoTable :=
  match invocation.volcanoList.or settings.volcanoList with
  | some path => (VolcanoFile.load around.files path settings.defaultArea).mapError (·.messages)
  | none =>
    .error ["no volcano list configured; pass --volcano-list or set PUFF_VOLCANO_LIST"]

/-- The index of the chosen volcano. -/
def indexOf (table : VolcanoTable) : Option Choice → Except (List String) Nat
  | some (.byIndex index) => .ok index
  | some (.byName name) =>
    match table.position? name with
    | some index => .ok index
    | none => .error ["no volcano named '" ++ name ++ "'"]
  | none => .error ["pass --index or --name"]

/-- One event on a page, and what it comes to. -/
def fire (around : Surroundings) (settings : Settings) (page : Page) (event : Event) : Conclusion :=
  let (result, page) := dispatch settings event around.now page
  let output := shown (transcript result page)
  match result with
  | .ok _ => { output := output }
  | .error e => { output := output, failure := some [failureText e] }

/-- The page whose run form is filled with texts. -/
def pageOf (texts : List (Field × String)) : Page :=
  { runForm := texts.foldl (fun form t => form.put t.1 t.2) Form.run }

/-- The texts of the run options, by control. -/
def RunTexts.entries (t : RunTexts) : List (Field × String) :=
  [(.runHours, t.runHours), (.eruptHours, t.eruptHours), (.saveHours, t.saveHours),
    (.phiDist, t.phiDist), (.ashLogMean, t.ashLogMean), (.ashLogSdev, t.ashLogSdev)]

/-- The page whose parameter frame names an earlier run. -/
def pageOfRun (settings : Settings) (previous : String) : Page :=
  { paramsFrame := (Frame.named "runParams").seed settings.runParamsForm .previous previous }

/-- The volcano table of an invocation, shown. -/
def showVolcanoes (around : Surroundings) (invocation : Invocation) (settings : Settings) :
    Conclusion :=
  match loadVolcanoes around invocation settings with
  | .ok table => { output := shown table.toJson }
  | .error reasons => .refused reasons

/-- The run form filled from a volcano of an invocation. -/
def populate (around : Surroundings) (invocation : Invocation) (settings : Settings)
    (choice : Option Choice) : Conclusion :=
  match loadVolcanoes around invocation settings with
  | .error reasons => .refused reasons
  | .ok table =>
    match indexOf table choice with
    | .error reasons => .refused reasons
    | .ok index =>
      fire around settings { runForm := Form.run.select index, volcanoes := table } .volcanoSelected

/-- What a command comes to with given settings. -/
def runCommand (around : Surroundings) (invocation : Invocation) (settings : Settings) :
    Conclusion :=
  match invocation.command with
  | .volcanoes => showVolcanoes around invocation settings
  | .populate choice => populate around invocation settings choice
  | .checkDate date => fire around settings (pageOf [(.eruptDate, date)]) .eruptDateChanged
  | .reconcile texts => fire around settings (pageOf texts.entries) .runOptionsSubmitted
  | .runParams previous session =>
    fire around settings (pageOfRun settings previous) (.previousRunRequested session)
  | .defaultOptions previous session =>
    fire around settings {} (.defaultOptionsRequested session previous)
  | .mapOptions => fire around settings {} .mapOptionsRequested
  | .helpWindow url => fire around settings {} (.helpRequested url)

/-- What an invocation comes to. -/
def run (around : Surroundings) (invocation : Invocation) : Conclusion :=
  match loadSettings around invocation with
  | .ok settings => runCommand around invocation settings
  | .error reasons => .refused reasons

end PlumeForm.CommandLine
