/-!
# Options

How the words of a command line are told apart. Options come first: long ones after two dashes, short ones after one, and
several short ones may share a word. An option that takes a value has it attached or finds it in the next word. The first
word that is no option, or the word of two dashes, ends them.

## Main definitions

* `CommandLine.OptionRule`, `CommandLine.Effect`: the options that are known.
* `CommandLine.Word`: a word by its form.
* `CommandLine.scan`: the options at the beginning of a list of words.
-/

namespace SecretRotation.CommandLine

/-- What an option does. -/
inductive Effect where
  | flag
  /-- The option takes a value, and some values are refused. -/
  | value (accepts : String → Bool)
  /-- All else is dropped, and help is shown. -/
  | help
  /-- All else is dropped, and the version is shown. -/
  | version

/-- An option by its names. -/
structure OptionRule where
  name : String
  short : Option Char
  effect : Effect

/-- A word by its form. -/
inductive Word where
  | long (name : String) (attached : Option String)
  | short (letters : List Char)
  /-- Two dashes alone: no options after this. -/
  | escape
  | plain

/-- What stands before and after the first equals sign. -/
def splitEquals : List Char → List Char × Option (List Char)
  | [] => ([], none)
  | '=' :: rest => ([], some rest)
  | c :: rest =>
    let (before, after) := splitEquals rest
    (c :: before, after)

/-- The form of a word. -/
def Word.of (text : String) : Word :=
  match text.toList with
  | ['-', '-'] => .escape
  | '-' :: '-' :: rest =>
    let (name, attached) := splitEquals rest
    .long (String.ofList name) (attached.map String.ofList)
  | '-' :: c :: rest => .short (c :: rest)
  | _ => .plain

/-- The options found so far, with their values. -/
abbrev Found := List (String × String)

/-- Why the words are not read to their end. -/
inductive Stop where
  | help
  | version
  | usage
deriving DecidableEq

/-- What options lead to. -/
inductive Scan where
  | stop (reason : Stop)
  /-- The options, whether the last one has a value that will be refused, whether the two dashes ended them, and the rest of
  the words. -/
  | done (found : Found) (faulty escaped : Bool) (rest : List String)

/-- An option with its value, if that is its first and the value is accepted. -/
def admit? (rule : OptionRule) (value : String) (found : Found) : Option Found :=
  let accepted := match rule.effect with
    | .value accepts => accepts value
    | _ => true
  if accepted && (found.lookup rule.name).isNone then some (found ++ [(rule.name, value)]) else none

/-- What the letters of a word lead to. -/
inductive Letters where
  | stop (reason : Stop)
  | done (found : Found)
  /-- The last letter is that of an option whose value is in the next word. -/
  | pending (rule : OptionRule) (found : Found)

/-- The letters of a word, one by one. -/
def letters (rules : List OptionRule) (found : Found) : List Char → Letters
  | [] => .done found
  | c :: rest =>
    match rules.find? (·.short == some c) with
    | none => .stop .usage
    | some rule =>
      match rule.effect with
      | .help => .stop .help
      | .version => .stop .version
      | .flag =>
        match admit? rule "" found with
        | some found => letters rules found rest
        | none => .stop .usage
      | .value _ =>
        match rest with
        | [] => .pending rule found
        | rest =>
          let value := match rest with
            | '=' :: value => value
            | value => value
          match admit? rule (String.ofList value) found with
          | some found => .done found
          | none => .stop .usage

/-- What the options are read with. -/
structure ScanState where
  found : Found
  /-- The option whose value is the next word. -/
  pending : Option OptionRule
  /-- The last word is a value that will be refused. This comes out with the next option, or else at the end. -/
  faulty : Bool

/-- Nothing is found yet. -/
def ScanState.start : ScanState := ⟨[], none, false⟩

/-- The state after an option with its value, or a stop if they are refused. -/
def ScanState.admit? (s : ScanState) (rule : OptionRule) (value : String) : Option ScanState :=
  (CommandLine.admit? rule value s.found).map fun found => ⟨found, none, false⟩

/-- The state after an option that is not an end by itself. -/
def ScanState.option (s : ScanState) (rule : OptionRule) (attached : Option String) : Except Stop ScanState :=
  match rule.effect, attached with
  | .help, none => .error .help
  | .version, none => .error .version
  | .flag, none => (s.admit? rule "").elim (.error .usage) .ok
  | .value _, some value => (s.admit? rule value).elim (.error .usage) .ok
  | .value _, none => .ok { s with pending := some rule }
  | _, some _ => .error .usage

/-- The state after a word with options. -/
def ScanState.word (rules : List OptionRule) (s : ScanState) : Word → Except Stop ScanState
  | .long name attached =>
    match rules.find? (·.name == name) with
    | some rule => s.option rule attached
    | none => .error .usage
  | .short cs =>
    match letters rules s.found cs with
    | .stop reason => .error reason
    | .done found => .ok ⟨found, none, false⟩
    | .pending rule found => .ok ⟨found, some rule, false⟩
  | _ => .ok s

/-- The options at the beginning of words. -/
def scan (rules : List OptionRule) (s : ScanState) : List String → Scan
  | [] => if s.pending.isSome then .stop .usage else .done s.found s.faulty false []
  | word :: words =>
    match s.pending, Word.of word with
    | some rule, .plain => scan rules ((s.admit? rule word).getD ⟨s.found, none, true⟩) words
    | some _, _ => .stop .usage
    | none, .plain => .done s.found s.faulty false (word :: words)
    | none, .escape => .done s.found s.faulty true words
    | none, form =>
      if s.faulty then .stop .usage
      else
        match s.word rules form with
        | .ok s => scan rules s words
        | .error reason => .stop reason

end SecretRotation.CommandLine
