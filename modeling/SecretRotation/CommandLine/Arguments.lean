import SecretRotation.CommandLine.Options
import SecretRotation.Instant.Stamp
import SecretRotation.ManagedObject
import SecretRotation.Settings.Environment

/-!
# Arguments

What a command line asks for: options that hold for every command, the command, and the command's own options.

## Main definitions

* `Command`, `Invocation`: what is asked for.
* `Invocation.parse`: what words ask for.
-/

namespace SecretRotation

/-- What is to be done. -/
inductive Command where
  /-- One cycle over a secret, with its messages reported as events or not. -/
  | reconcile (key : ObjectKey) (report : Bool)
  | checkConfig
  /-- What windows there are, and whether one of them is open at an instant or now. -/
  | windows (at_ : Option Instant)
deriving DecidableEq

/-- A command and what holds for every command. -/
structure Invocation where
  configPath : Option String
  logLevel : Option String
  jsonLogs : Bool
  command : Command
deriving DecidableEq

namespace CommandLine

/-- The option that shows help. -/
def helpRule : OptionRule := ⟨"help", some 'h', .help⟩

/-- A value of any kind. -/
def anyValue : Effect := .value fun _ => true

/-- The options before the command. -/
def globalRules : List OptionRule := [
  ⟨"config", some 'c', .value (· ≠ "")⟩,
  ⟨"log-level", some 'l', anyValue⟩,
  ⟨"json-logs", none, .flag⟩,
  helpRule,
  ⟨"version", some 'V', .version⟩]

/-- The options of a cycle. -/
def reconcileRules : List OptionRule := [
  ⟨"namespace", some 'n', anyValue⟩,
  ⟨"name", none, anyValue⟩,
  ⟨"no-events", none, .flag⟩,
  helpRule]

/-- The options of the check. -/
def checkRules : List OptionRule := [helpRule]

/-- The options of the list of windows. -/
def windowsRules : List OptionRule := [
  ⟨"at", none, .value fun text => (Instant.parseLoose? text).isSome⟩,
  helpRule]

/-- The words after a command: its options, and nothing else. -/
def readOptions (rules : List OptionRule) (words : List String) : Except Stop Found :=
  match scan rules .start words with
  | .stop reason => .error reason
  | .done found faulty _ rest => if faulty || !rest.isEmpty then .error .usage else .ok found

/-- A cycle by its options. -/
def readReconcile (words : List String) : Except Stop Command := do
  let found ← readOptions reconcileRules words
  match found.lookup "name" with
  | some name =>
    pure (.reconcile ⟨(found.lookup "namespace").getD "default", name⟩ (found.lookup "no-events").isNone)
  | none => .error .usage

/-- The list of windows by its options. -/
def readWindows (words : List String) : Except Stop Command := do
  let found ← readOptions windowsRules words
  pure (.windows ((found.lookup "at").bind Instant.parseLoose?))

/-- Help may be asked for on a command. -/
def readHelp : List String → Except Stop Command
  | [] => .error .help
  | [topic] => .error (if ["reconcile", "check-config", "windows", "help"].contains topic then .help else .usage)
  | _ => .error .usage

/-- A command and its options. -/
def readCommand : List String → Except Stop Command
  | "reconcile" :: words => readReconcile words
  | "check-config" :: words => (readOptions checkRules words).map fun _ => .checkConfig
  | "windows" :: words => readWindows words
  | "help" :: words => readHelp words
  | _ => .error .usage

end CommandLine

open CommandLine in
/-- What words ask for. A path that is not among them is taken from the environment; there it must not be empty. -/
def Invocation.parse (env : Environment) (words : List String) : Except Stop Invocation :=
  match scan globalRules .start words with
  | .stop reason => .error reason
  | .done _ _ true _ => .error .usage
  | .done found faulty false rest => do
    let command ← readCommand rest
    let configPath := (found.lookup "config").or (env "WARDEN_CONFIG")
    if faulty || configPath == some "" then .error .usage
    else
      pure {
        configPath,
        logLevel := found.lookup "log-level",
        jsonLogs := (found.lookup "json-logs").isSome,
        command }

end SecretRotation
