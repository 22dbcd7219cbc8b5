import Std.Time.DateTime
import PlumeForm.CommandLine.Run

/-!
# The program

Reads the files that an invocation needs, the environment and the clock, and shows what comes of
the invocation. Its exit code is 0 when the command worked or help was asked for, 1 when it
failed, and 2 when the arguments make no sense.
-/

namespace PlumeForm.CommandLine

/-- How the program is used. -/
def usageText : String :=
  "Usage: webpuff-tools [--settings PATH] [--volcano-list PATH] COMMAND\n" ++
    "Commands: volcanoes, populate, check-date, reconcile, run-params, default-options, " ++
    "map-options, help-window, help"

/-- The bytes of a file, when it can be read. -/
def readBytes? (path : String) : IO (Option (String × ByteArray)) := do
  try
    return some (path, ← IO.FS.readBinFile path)
  catch _ => return none

/-- The files among the paths that can be read. -/
def readFiles (paths : List String) : IO (List (String × ByteArray)) := do
  return (← paths.mapM readBytes?).filterMap id

/-- The variables in the text of an environment, which ends each with a null. -/
def variablesOf (text : String) : Environment :=
  (text.toList.splitOn '\x00').filterMap fun entry =>
    match entry.span (· ≠ '=') with
    | (name, _ :: value) => some (String.ofList name, String.ofList value)
    | _ => none

/-- The environment of the process. -/
def readEnvironment : IO Environment := do
  match ← readBytes? "/proc/self/environ" with
  | some (_, bytes) => return variablesOf ((String.fromUTF8? bytes).getD "")
  | none => return []

/-- The paths at which the settings of an invocation may be found. -/
def settingsPaths (invocation : Invocation) : List String :=
  let path := invocation.settings.getD Settings.defaultFile
  path :: (Settings.filesNamed path).map (·.1)

/-- The seconds since the start of 1970. -/
def readClock : IO Int := do
  return (← Std.Time.Timestamp.now).toSecondsSinceUnixEpoch.val

/-- What an invocation needs: first the settings, which may name a volcano list. -/
def readSurroundings (invocation : Invocation) : IO Surroundings := do
  let environment ← readEnvironment
  let now ← readClock
  let settingsFiles ← readFiles (settingsPaths invocation)
  let around : Surroundings := ⟨Files.ofPaths settingsFiles, environment, now⟩
  let settings := (loadSettings around invocation).toOption
  let list := invocation.volcanoList.or (settings.bind (·.volcanoList))
  let listFiles ← readFiles list.toList
  return { around with files := Files.ofPaths (settingsFiles ++ listFiles) }

/-- The reasons of a failure, outermost first. -/
def failureReport : List String → String
  | [] => "Error"
  | first :: rest =>
    "Error: " ++ first ++ String.join (rest.map fun reason => "\n\nCaused by:\n    " ++ reason)

/-- Carries out a command line. -/
def runArguments (args : List String) : IO UInt32 := do
  match Invocation.read args with
  | .error .help =>
    IO.println usageText
    return 0
  | .error .wrong =>
    IO.eprintln usageText
    return 2
  | .ok invocation =>
    let conclusion := run (← readSurroundings invocation) invocation
    IO.print conclusion.output
    match conclusion.failure with
    | none => return 0
    | some reasons =>
      IO.eprintln (failureReport reasons)
      return 1

end PlumeForm.CommandLine

/-- Carries out the command line of the process. -/
def main (args : List String) : IO UInt32 :=
  PlumeForm.CommandLine.runArguments args
