import PlumeForm.CommandLine.Arguments

/-!
# Invocations

The commands of the program, with their options. The settings file and the volcano list are named
before the command.
-/

namespace PlumeForm

namespace CommandLine

/-- How a volcano is chosen. -/
inductive Choice where
  | byIndex (index : Nat)
  | byName (name : String)
deriving DecidableEq, Repr

/-- What a run form is filled with before its options are reconciled. -/
structure RunTexts where
  runHours : String := ""
  eruptHours : String := ""
  saveHours : String := ""
  phiDist : String := ""
  ashLogMean : String := ""
  ashLogSdev : String := ""
deriving DecidableEq, Repr

/-- What the program is told to do. -/
inductive Command where
  /-- Show the volcano table. -/
  | volcanoes
  /-- Fill the run form from a volcano. -/
  | populate (choice : Option Choice)
  /-- Check an eruption date. -/
  | checkDate (date : String)
  /-- Reconcile run options. -/
  | reconcile (texts : RunTexts)
  /-- Open an earlier run again. -/
  | runParams (previous session : String)
  /-- Set back the display options of a run. -/
  | defaultOptions (previous session : String)
  /-- Open the map options. -/
  | mapOptions
  /-- Open a help page. -/
  | helpWindow (url : String)
deriving DecidableEq, Repr

/-- A command with the files that it is to use. -/
structure Invocation where
  settings : Option String := none
  volcanoList : Option String := none
  command : Command
deriving DecidableEq, Repr

/-! ## Reading -/

/-- The options before the command. -/
def globalGrammar : Grammar :=
  ⟨[("settings", .path), ("volcano-list", .path)], 0⟩

/-- The options of a run form. -/
def runOptions : List (String × ValueKind) :=
  ["run-hours", "erupt-hours", "save-hours", "phi-dist", "ash-log-mean", "ash-log-sdev"].map
    fun name => (name, .text)

/-- The options that name a run and a session. -/
def sessionOptions : List (String × ValueKind) :=
  [("previous", .text), ("session-id", .text)]

/-- The options and the number of words of a command. -/
def grammar? : String → Option Grammar
  | "volcanoes" => some ⟨[], 0⟩
  | "populate" => some ⟨[("index", .index), ("name", .text)], 0⟩
  | "check-date" => some ⟨[], 1⟩
  | "reconcile" => some ⟨runOptions, 0⟩
  | "run-params" => some ⟨sessionOptions, 0⟩
  | "default-options" => some ⟨sessionOptions, 0⟩
  | "map-options" => some ⟨[], 0⟩
  | "help-window" => some ⟨[], 1⟩
  | _ => none

/-- The volcano that an index or a name chooses; there may not be both. -/
def choiceOf (found : Found) : Except UsageError (Option Choice) :=
  match found.value? "index", found.value? "name" with
  | some _, some _ => .error .wrong
  | some index, none => .ok ((readIndex? index).map .byIndex)
  | none, some name => .ok (some (.byName name))
  | none, none => .ok none

/-- The texts of the run options. -/
def runTextsOf (found : Found) : RunTexts where
  runHours := found.valueOrEmpty "run-hours"
  eruptHours := found.valueOrEmpty "erupt-hours"
  saveHours := found.valueOrEmpty "save-hours"
  phiDist := found.valueOrEmpty "phi-dist"
  ashLogMean := found.valueOrEmpty "ash-log-mean"
  ashLogSdev := found.valueOrEmpty "ash-log-sdev"

/-- A command for a run and a session, both of which must be given. -/
def sessionCommand (make : String → String → Command) (found : Found) :
    Except UsageError Command :=
  match found.value? "previous", found.value? "session-id" with
  | some previous, some session => .ok (make previous session)
  | _, _ => .error .wrong

/-- A command for one word. -/
def wordCommand (make : String → Command) (found : Found) : Except UsageError Command :=
  match found.words with
  | [word] => .ok (make word)
  | _ => .error .wrong

/-- The command of a name and of what was found behind it. -/
def commandOf (name : String) (found : Found) : Except UsageError Command :=
  match name with
  | "volcanoes" => .ok .volcanoes
  | "populate" => (choiceOf found).map .populate
  | "check-date" => wordCommand .checkDate found
  | "reconcile" => .ok (.reconcile (runTextsOf found))
  | "run-params" => sessionCommand .runParams found
  | "default-options" => sessionCommand .defaultOptions found
  | "map-options" => .ok .mapOptions
  | "help-window" => wordCommand .helpWindow found
  | _ => .error .wrong

/-- The command `help`, for itself or for one other command. -/
def helpFor : List String → UsageError
  | [] => .help
  | [name] => if name = "help" ∨ (grammar? name).isSome then .help else .wrong
  | _ => .wrong

/-- The command at the front of the arguments. -/
def readCommand : List String → Except UsageError Command
  | [] => .error .wrong
  | name :: args =>
    if name = "help" then .error (helpFor args)
    else
      match grammar? name with
      | none => .error .wrong
      | some grammar =>
        match grammar.scan {} args with
        | .ok (found, []) => commandOf name found
        | .ok _ => .error .wrong
        | .error e => .error e

/-- The invocation of a list of arguments. -/
def Invocation.read (args : List String) : Except UsageError Invocation := do
  let (found, rest) ← globalGrammar.scan {} args
  let command ← readCommand rest
  return ⟨found.value? "settings", found.value? "volcano-list", command⟩

end CommandLine

end PlumeForm
