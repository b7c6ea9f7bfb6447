import SecretRotation.Cycle.Report
import SecretRotation.Cycle.Stamping
import SecretRotation.Cycle.Wake

/-!
# Evaluation

One cycle over an object: its listed fields are reported on in order, and the reports add up to the object to write, if
anything was produced, to the messages, and to the time of the next cycle. A field that cannot be filled for the first time
ends the cycle, and nothing is written.

## Main definitions

* `Engine.reports`: the reports on a list of fields.
* `Evaluation`, `Evaluation.ofReports`: what a cycle leads to.
* `GenerationFailure`: why a cycle ended early.
* `Engine.evaluate`: the cycle.
-/

namespace SecretRotation

/-- A field could not be filled for the first time. -/
structure GenerationFailure where
  field : String
  cause : GeneratorError
  /-- The warnings about the fields before it. -/
  warnings : List Notification
deriving DecidableEq

namespace GenerationFailure

/-- The complaint. -/
def message (f : GenerationFailure) : String :=
  s!"failed to generate value for field {f.field}: {f.cause.message}"

/-- The warning about the failure itself. -/
def warning (f : GenerationFailure) : Notification :=
  ⟨.warning, .generationFailed, "Failed to generate value for field " ++ Text.quoted f.field ++ ": " ++ f.cause.message⟩

/-- All that is to be told. -/
def notifications (f : GenerationFailure) : List Notification := f.warnings ++ [f.warning]

end GenerationFailure

/-- What a cycle leads to. -/
structure Evaluation where
  /-- The object to write, if anything was produced. -/
  object : Option ManagedObject
  requeueAfter : Option Duration
  notifications : List Notification
  outcomes : List FieldOutcome

namespace Evaluation

/-- What is told after values were generated. -/
def generated : Notification :=
  ⟨.normal, .generationSucceeded, "Successfully generated values for secret fields"⟩

/-- What is told after values were replaced. -/
def rotated : Notification :=
  ⟨.normal, .rotationSucceeded, "Successfully rotated values for secret fields"⟩

/-- The names of the fields that got material. -/
def written (reports : List FieldReport) : List String :=
  (reports.filter FieldReport.isWritten).map FieldReport.field

/-- The entries after the material of the reports has been put in, in their order. -/
def entries (data : Entries) (reports : List FieldReport) : Entries :=
  (reports.flatMap FieldReport.entries).foldl (fun found entry => found.insert entry.1 entry.2) data

/-- The object with the material of the reports and with new stamps. -/
def written? (object : ManagedObject) (now : Instant) (reports : List FieldReport) : Option ManagedObject :=
  if written reports = [] then none
  else
    some { object with
      annotations := object.stamped (reports.map FieldReport.field) (written reports) now,
      data := entries object.data reports }

/-- The success messages of the reports. -/
def successes (announce : Bool) (reports : List FieldReport) : List Notification :=
  (if reports.any fun r => r.isWritten && r.decision = .generate then [generated] else []) ++
    if announce && reports.any fun r => r.isWritten && r.decision = .rotate then [rotated] else []

/-- What the reports on the listed fields of an object add up to. -/
def ofReports (policy : RotationPolicy) (object : ManagedObject) (now : Instant) (reports : List FieldReport) :
    Evaluation :=
  { object := written? object now reports,
    requeueAfter := Wake.earliest (reports.map (FieldReport.wake policy.minimum)),
    notifications := reports.filterMap FieldReport.warning? ++ successes policy.announce reports,
    outcomes := reports.map FieldReport.outcome }

/-- The first outcome of a field. -/
def outcome? (v : Evaluation) (field : String) : Option FieldOutcome :=
  v.outcomes.find? (·.field = field)

/-- The fields for which a decision was taken and carried out. -/
def fieldsWith (v : Evaluation) (decision : String) : List String :=
  (v.outcomes.filter fun o => o.error.isNone && o.decision.name == decision).map FieldOutcome.field

end Evaluation

namespace Engine

/-- The reports on fields of an object, in order, up to the first field that could not be filled for the first time. -/
def reports (g : Engine) (object : ManagedObject) (now : Instant) :
    List String → Entropy → Except GenerationFailure (List FieldReport × Entropy)
  | [], e => .ok ([], e)
  | field :: fields, e =>
    let (report, rest) := g.report object now field e
    match report.fatal? with
    | some cause => .error ⟨field, cause, []⟩
    | none =>
      match g.reports object now fields rest with
      | .ok (reports, rest) => .ok (report :: reports, rest)
      | .error failure => .error { failure with warnings := report.warning?.toList ++ failure.warnings }

/-- One cycle over an object, and the entropy that is left. -/
def evaluate (g : Engine) (object : ManagedObject) (now : Instant) (e : Entropy) :
    Except GenerationFailure (Evaluation × Entropy) :=
  match g.reports object now object.fields e with
  | .ok (reports, rest) => .ok (.ofReports g.config.rotation object now reports, rest)
  | .error failure => .error failure

end Engine

end SecretRotation
