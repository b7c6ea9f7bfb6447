import SecretRotation.CommandLine.Arguments
import SecretRotation.CommandLine.Report

/-!
# Running a command

A command is a function of what it finds: files, variables, the time, a cluster and randomness.

## Main definitions

* `Host`: what a command finds.
* `Engine.reconcileCommand`: cycles over an object, as the command does them.
* `Invocation.settings`: the settings that hold for a command.
* `Invocation.run`: what a command prints, or why it failed, and the cluster afterwards.
-/

namespace SecretRotation

/-- What a command finds. -/
structure Host where
  file : String → FileContent
  environment : Environment
  now : Instant
  /-- The cluster, or why there is none. -/
  cluster : Except ClusterError Cluster
  entropy : Entropy
  keys : KeySource

/-- The text of the version. -/
def versionText : String := "warden 0.1.0"

/-- How often a cycle that ran into a conflict is tried again. -/
def conflictRetries : Nat := 2

/-- What is printed about a cycle over an object, or complained about. -/
def reconcileResult (key : ObjectKey) : Option (Except ReconcileError ReconcileOutcome) → Except Failure (List String)
  | some (.ok outcome) => .ok outcome.summary
  | some (.error cause) => .error (.reconcile key cause)
  | none => .error .breakdown

/-- Cycles over an object, and what is said about the last of them. -/
def Engine.reconcileCommand {σ : Type} (g : Engine) (b : Backend σ) (key : ObjectKey) (e : Entropy) (s : σ) :
    Except Failure (List String) × σ :=
  let (answer, _, s) := g.reconcileWithRetries b key conflictRetries e s
  (reconcileResult key answer, s)

/-- What becomes of the cluster, and what is to be printed or complained about. -/
structure Report where
  result : Except Failure (List String)
  cluster : Except ClusterError Cluster

namespace Invocation

/-- Options for logs go before all other settings. -/
def adjust (i : Invocation) (s : Settings) : Settings :=
  { s with logging := {
      level := i.logLevel.getD s.logging.level,
      format := if i.jsonLogs then .json else s.logging.format } }

/-- The settings that hold for a command. -/
def settings (i : Invocation) (host : Host) : Except ConfigError Settings :=
  let path := i.configPath.getD Settings.systemPath
  (Settings.fromFile path (host.file path) host.environment).map i.adjust

/-- A cycle over a secret of the cluster. -/
def runReconcile (host : Host) (s : Settings) (config : EngineConfig) (key : ObjectKey) (report : Bool) : Report :=
  match host.cluster with
  | .error cause => ⟨.error (.cluster cause), .error cause⟩
  | .ok cluster =>
    let engine : Engine := ⟨config, ⟨s.defaults.charset, host.keys⟩⟩
    let (result, cluster) := engine.reconcileCommand (Cluster.backend report) key host.entropy cluster
    ⟨result, .ok cluster⟩

/-- What is complained about when there are no settings. -/
def settingsFailure (cause : ConfigError) : Failure :=
  if cause.isBreakdown then .breakdown else .settings cause

/-- Runs a command. Settings come first, whatever the command is. -/
def run (i : Invocation) (host : Host) : Report :=
  match i.settings host with
  | .error cause => ⟨.error (settingsFailure cause), host.cluster⟩
  | .ok s =>
    match s.engineConfig with
    | .error cause => ⟨.error (settingsFailure cause), host.cluster⟩
    | .ok config =>
      match i.command with
      | .reconcile key report => runReconcile host s config key report
      | .checkConfig => ⟨.ok (s.summary config), host.cluster⟩
      | .windows at_ =>
        match config.gate.tryStatusAt (at_.getD host.now) with
        | some status => ⟨.ok (config.gate.summary ++ status), host.cluster⟩
        | none => ⟨.error .breakdown, host.cluster⟩

end Invocation

end SecretRotation
