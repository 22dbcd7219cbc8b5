import PlumeForm.Text.Unsigned

/-!
# Options and words on a command line

An argument that begins with a hyphen and has more to it is an option. An option that is known has
two hyphens before its name; its value follows an equals sign, or is the next argument, which then
must not be an option itself. Behind `--` every argument is a word. An option may be given once
only.
-/

namespace PlumeForm.CommandLine

/-- Why a command line is not carried out. -/
inductive UsageError where
  /-- Help is asked for. -/
  | help
  /-- Nothing can be made of the arguments. -/
  | wrong
deriving DecidableEq, Repr

/-- What the value of an option must be. -/
inductive ValueKind where
  /-- Any text. -/
  | text
  /-- A path, which is not empty. -/
  | path
  /-- A whole number of 64 bits. -/
  | index
deriving DecidableEq, Repr

/-- The number of an index. -/
def readIndex? (value : String) : Option Nat :=
  match Text.readUnsigned? value.toList with
  | some n => if n < 2 ^ 64 then some n else none
  | none => none

/-- The value is of the kind. -/
def ValueKind.accepts : ValueKind → String → Bool
  | text, _ => true
  | path, value => value != ""
  | index, value => (readIndex? value).isSome

/-- The options that a part of a command line may have, and how many words. -/
structure Grammar where
  options : List (String × ValueKind)
  words : Nat

/-- What has been found on a command line. -/
structure Found where
  values : List (String × String) := []
  words : List String := []
deriving DecidableEq, Repr

namespace Found

/-- The value of an option. -/
def value? (found : Found) (name : String) : Option String :=
  (found.values.find? fun v => v.1 == name).map (·.2)

/-- The value of an option, empty when it is not given. -/
def valueOrEmpty (found : Found) (name : String) : String :=
  (found.value? name).getD ""

end Found

/-- An argument that is an option. -/
def isOption (arg : String) : Bool :=
  match arg.toList with
  | '-' :: _ :: _ => true
  | _ => false

/-- The option has a name behind two hyphens. -/
def isNamed (arg : String) : Bool :=
  ['-', '-'].isPrefixOf arg.toList

/-- The name and the value of an option; the value is missing when there is no equals sign. -/
def splitOption (arg : String) : String × Option String :=
  match (arg.toList.drop 2).span (· ≠ '=') with
  | (name, _ :: value) => (String.ofList name, some (String.ofList value))
  | (name, []) => (String.ofList name, none)

/-- The argument asks for help. -/
def asksForHelp (arg : String) : Bool :=
  arg = "--help" || ['-', 'h'].isPrefixOf arg.toList

namespace Grammar

/-- One more value of an option. -/
def addValue (s : Grammar) (found : Found) (name value : String) : Except UsageError Found :=
  match s.options.find? fun o => o.1 == name with
  | some (_, kind) =>
    if (found.value? name).isNone && kind.accepts value then
      .ok { found with values := found.values ++ [(name, value)] }
    else .error .wrong
  | none => .error .wrong

/-- One more word. -/
def addWord (s : Grammar) (found : Found) (word : String) : Except UsageError Found :=
  if found.words.length < s.words then .ok { found with words := found.words ++ [word] }
  else .error .wrong

/-- The option is known. -/
def knows (s : Grammar) (name : String) : Bool :=
  s.options.any fun o => o.1 == name

/-- What is found among the arguments, and the arguments from the first word on for which there is
no room. -/
def scan (s : Grammar) (found : Found) : List String → Except UsageError (Found × List String)
  | [] => .ok (found, [])
  | arg :: rest =>
    if arg = "--" then (rest.foldlM s.addWord found).map fun found => (found, [])
    else if asksForHelp arg then .error .help
    else if !isOption arg then
      match s.addWord found arg with
      | .ok found => s.scan found rest
      | .error _ => .ok (found, arg :: rest)
    else if !isNamed arg then .error .wrong
    else
      match splitOption arg, rest with
      | (name, some value), rest =>
        match s.addValue found name value with
        | .ok found => s.scan found rest
        | .error e => .error e
      | (name, none), value :: rest =>
        if s.knows name && !isOption value then
          match s.addValue found name value with
          | .ok found => s.scan found rest
          | .error e => .error e
        else .error .wrong
      | (_, none), [] => .error .wrong

end Grammar

end PlumeForm.CommandLine
