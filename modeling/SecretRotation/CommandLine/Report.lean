import SecretRotation.Cluster.Client
import SecretRotation.Settings.Source

/-!
# What the command line says

The texts that commands print, and the report on a failure with its causes.

## Main definitions

* `Settings.summary`: the settings in short.
* `Gate.summary`, `Gate.statusAt`: the windows, and whether one is open; `Gate.tryStatusAt` has no answer where the search
  for the next opening breaks down.
* `ReconcileOutcome.summary`: what a cycle came to.
* `Failure`, `Failure.report`: why a command failed.
-/

namespace SecretRotation

/-- Lines, each with an end. -/
def linesText (lines : List String) : String := String.join (lines.map (· ++ "\n"))

/-- A text filled up with blanks to a width. -/
def padRight (width : Nat) (s : String) : String :=
  s ++ String.ofList (List.replicate (width - s.length) ' ')

namespace Gate

/-- The windows of a gate. -/
def summary (g : Gate) : List String :=
  if g.enabled then "maintenance windows:" :: g.windows.map fun w => "  " ++ w.render
  else ["maintenance windows: disabled"]

/-- Whether a window is open at an instant, and if none is, when the next one opens. -/
def statusAt (g : Gate) (t : Instant) : List String :=
  if g.enabled then
    match g.active? t with
    | some w => [s!"inside window at {t.format}: " ++ w.name.getD "(unnamed)"]
    | none =>
      s!"outside all windows at {t.format}" ::
        match g.nextOpening? t with
        | some s => [s!"next window opens {(Instant.ofSeconds s).format} (in {(g.wait t).format})"]
        | none => []
  else [s!"rotation allowed at {t.format}"]

/-- The same, unless the search for the next opening breaks down. -/
def tryStatusAt (g : Gate) (t : Instant) : Option (List String) :=
  if g.WaitBreaks t then none else some (g.statusAt t)

end Gate

/-- A truth value in words. -/
def flagText (b : Bool) : String := if b then "true" else "false"

/-- The settings in short. -/
def Settings.summary (s : Settings) (config : EngineConfig) : List String :=
  ["defaults:",
    s!"  type: {s.defaults.kindName}",
    s!"  length: {s.defaults.length}",
    s!"  rsa bits: {s.defaults.rsaBits}",
    s!"  curve: {s.defaults.curve}",
    s!"  charset size: {s.defaults.charset.length}",
    "rotation:",
    s!"  min interval: {config.rotation.minimum.format}",
    s!"  create events: {flagText config.rotation.announce}"] ++ config.gate.summary

/-- What became of a field. -/
def FieldOutcome.detail (o : FieldOutcome) : String :=
  match o.error with
  | some cause => s!"failed: {cause.message}"
  | none =>
    match o.decision with
    | .defer wait => s!"deferred for {wait.format}"
    | .skip (some due) => s!"due in {due.format}"
    | .belowMinimum interval minimum => s!"interval {interval.format} below minimum {minimum.format}"
    | decision => decision.name

/-- What a cycle came to. -/
def ReconcileOutcome.summary (o : ReconcileOutcome) : List String :=
  o.fields.map (fun f => padRight 24 f.field ++ " " ++ f.detail) ++
    [s!"updated: {flagText o.updated}", "requeue after: " ++ (o.requeueAfter.elim "never" Duration.format)]

/-- A complaint and its causes, the nearest one first. -/
def WindowError.chain (e : WindowError) : List String :=
  e.message :: match e with
    | .inWindow _ cause => [cause.message]
    | _ => []

/-- A complaint and its causes, the nearest one first. -/
def ConfigError.chain (e : ConfigError) : List String :=
  e.message :: match e with
    | .unreadable _ fault => [fault.message]
    | .windows cause => cause.chain
    | _ => []

/-- A complaint and its causes, the nearest one first. -/
def ReconcileError.chain (e : ReconcileError) : List String :=
  e.message :: match e with
    | .generation failure => [failure.cause.message]
    | .store _ => []

/-- Why a command failed. -/
inductive Failure where
  | settings (cause : ConfigError)
  /-- The cluster cannot be reached. -/
  | cluster (cause : ClusterError)
  | reconcile (key : ObjectKey) (cause : ReconcileError)
  /-- All work ended where it stood. -/
  | breakdown
deriving DecidableEq

namespace Failure

/-- What failed, and the causes, the nearest one first. -/
def chain : Failure → List String
  | settings cause => "failed to load configuration" :: cause.chain
  | cluster cause => [cause.message]
  | reconcile key cause => s!"failed to reconcile {key.render}" :: cause.chain
  | breakdown => ["breakdown"]

/-- A text whose lines begin in one column. -/
def indent (first other : String) (text : String) : String :=
  first ++ ("\n" ++ other).intercalate (text.splitOn "\n")

/-- The causes, one below the other. Several causes are numbered. -/
def causes : List String → List String
  | [] => []
  | [cause] => [indent "    " "    " cause]
  | many => many.zipIdx.map fun (cause, number) =>
    indent (String.ofList (List.replicate (5 - (Text.decimal number).length) ' ' ++ Text.decimal number) ++ ": ")
      "       " cause

/-- The report on a failure. -/
def report (f : Failure) : String :=
  match f.chain with
  | [] => ""
  | [top] => linesText [s!"Error: {top}"]
  | top :: rest => linesText ([s!"Error: {top}", "", "Caused by:"] ++ causes rest)

end Failure

end SecretRotation
