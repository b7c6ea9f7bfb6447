import SecretRotation.Cycle.Notification
import SecretRotation.Duration.Printer
import SecretRotation.Field.Decision
import SecretRotation.Field.Material

/-!
# Reports on fields

Within a cycle each listed field is reported on by itself: what was decided, and what came of it. All else that a cycle
tells or writes is read off these reports.

## Main definitions

* `RotationPolicy`, `Engine`: what a cycle works with.
* `FieldReport`: the report on one field.
* `Engine.report`: the report on a field of an object at an instant.
* `FieldReport.entries`, `FieldReport.warning?`, `FieldReport.wake`: what follows from a report.
-/

namespace SecretRotation

/-- What holds for the replacement of all fields. -/
structure RotationPolicy where
  /-- Shorter intervals are refused. -/
  minimum : Duration
  /-- Successful replacements are told to those who watch the object. -/
  announce : Bool
deriving DecidableEq

instance : Inhabited RotationPolicy := ⟨⟨.ofSeconds 300, false⟩⟩

/-- The settings of a cycle. -/
structure EngineConfig where
  defaults : GenerationDefaults
  rotation : RotationPolicy
  gate : Gate
deriving DecidableEq, Inhabited

/-- The settings of a cycle and the generator it uses. -/
structure Engine where
  config : EngineConfig
  generator : Generator

/-- What came of a decision. -/
inductive FieldResult where
  /-- No material was asked for. -/
  | untouched
  | produced (material : Material)
  | failed (cause : GeneratorError)

/-- The report on one field. -/
structure FieldReport where
  spec : FieldSpec
  decision : Decision
  result : FieldResult

/-- What was decided for a field, and the complaint if a replacement failed. -/
structure FieldOutcome where
  field : String
  decision : Decision
  error : Option GeneratorError
deriving DecidableEq

namespace FieldReport

/-- The name of the field. -/
def field (r : FieldReport) : String := r.spec.field

/-- The complaint, if material could not be had. -/
def cause? (r : FieldReport) : Option GeneratorError :=
  match r.result with
  | .failed cause => some cause
  | _ => none

/-- The field got material. -/
def isWritten (r : FieldReport) : Bool :=
  match r.result with
  | .produced _ => true
  | _ => false

/-- The complaint that ends the cycle: a field without a value could not be filled. -/
def fatal? (r : FieldReport) : Option GeneratorError :=
  match r.decision with
  | .generate => r.cause?
  | _ => none

/-- The entries to be written. -/
def entries (r : FieldReport) : List (String × SecretBytes) :=
  match r.result with
  | .produced material => material.entries r.field
  | _ => []

/-- The outcome to be told. -/
def outcome (r : FieldReport) : FieldOutcome := ⟨r.field, r.decision, r.cause?⟩

/-- The warning about a replacement that failed or was refused. -/
def warning? (r : FieldReport) : Option Notification :=
  match r.decision with
  | .rotate =>
    r.cause?.map fun cause =>
      ⟨.warning, .rotationFailed, "Failed to rotate value for field " ++ Text.quoted r.field ++ ": " ++ cause.message⟩
  | .belowMinimum interval minimum =>
    some ⟨.warning, .rotationFailed,
      "Rotation interval " ++ interval.format ++ " for field " ++ Text.quoted r.field ++ " is below minimum " ++
        minimum.format⟩
  | _ => none

/-- When the field wants to be looked at again. A new value waits for its interval, unless that will be refused; a failed
replacement is tried again after the shortest interval allowed. -/
def wake (minimum : Duration) (r : FieldReport) : Option Duration :=
  match r.decision with
  | .generate => r.spec.interval.filter (minimum ≤ ·)
  | .rotate =>
    match r.result with
    | .failed _ => some minimum
    | _ => r.spec.interval.filter (minimum ≤ ·)
  | .defer wait => some wait
  | .skip nextDue => nextDue
  | .belowMinimum .. => none

end FieldReport

namespace Engine

/-- What is known of a field before a cycle. -/
def state (object : ManagedObject) (spec : FieldSpec) : FieldState :=
  { hasValue := object.hasValue spec.field,
    interval := spec.interval,
    baseline := object.baseline? spec.field }

/-- The settings of a field. -/
def spec (g : Engine) (object : ManagedObject) (field : String) : FieldSpec :=
  FieldSpec.resolve object.annotations g.config.defaults field

/-- What is decided for a field. -/
def decide (g : Engine) (object : ManagedObject) (field : String) (now : Instant) : Decision :=
  Decision.make (state object (g.spec object field)) g.config.rotation.minimum g.config.gate now

/-- The result for a field with some settings, and the entropy that is left. -/
def attempt (g : Engine) (spec : FieldSpec) (e : Entropy) : FieldResult × Entropy :=
  match g.generator.produce spec e with
  | .ok (material, rest) => (.produced material, rest)
  | .error cause => (.failed cause, e)

/-- The report on a field of an object, and the entropy that is left. -/
def report (g : Engine) (object : ManagedObject) (now : Instant) (field : String) (e : Entropy) :
    FieldReport × Entropy :=
  let spec := g.spec object field
  let decision := g.decide object field now
  if decision.producesMaterial then
    let (result, rest) := g.attempt spec e
    (⟨spec, decision, result⟩, rest)
  else (⟨spec, decision, .untouched⟩, e)

end Engine

end SecretRotation
