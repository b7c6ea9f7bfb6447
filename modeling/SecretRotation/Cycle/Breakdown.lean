import SecretRotation.Cycle.Report

/-!
# Breakdowns

Three things end all work where it stands: an interval that overflows in its last second, a field that is to be put off
where the search for the next opening runs into the end of the calendar, and a value that is longer than any memory. None
of them is an error that a cycle could report, so they are looked for before the cycle begins; all that is said of cycles
elsewhere is said of those that do not break down.

## Main definitions

* `Generator.refuses`: no material can be had by the settings of a field.
* `Engine.strandedAt`: there is no decision for a field.
* `Engine.breaksDownAt`: the cycle breaks down at a field.
* `Engine.breaksDown`: the cycle breaks down before it comes to an end.
-/

namespace SecretRotation

/-- No material can be had by the settings of a field, whatever the entropy. -/
def Generator.refuses (g : Generator) (spec : FieldSpec) : Bool :=
  match spec.kind with
  | .error _ => true
  | .ok .string => spec.length = 0 || g.charset = ""
  | .ok .bytes => spec.length = 0
  | .ok .rsa => spec.length < minRsaBits
  | .ok .ecdsa => (NistCurve.ofName? spec.curve).isNone
  | .ok .ed25519 => false

namespace Engine

/-- The decision for a field, where there is one. -/
def tryDecide (g : Engine) (object : ManagedObject) (field : String) (now : Instant) : Option Decision :=
  Decision.tryMake (state object (g.spec object field)) g.config.rotation.minimum g.config.gate now

/-- There is no decision for a field: it is to be put off, and it cannot be known for how long. -/
def strandedAt (g : Engine) (object : ManagedObject) (now : Instant) (field : String) : Bool :=
  (g.tryDecide object field now).isNone

/-- The cycle breaks down at a field: where its interval is read, where it is decided, or where it would get a value. -/
def breaksDownAt (g : Engine) (object : ManagedObject) (now : Instant) (field : String) : Bool :=
  let spec := g.spec object field
  FieldSpec.intervalBreaks object.annotations field || g.strandedAt object now field ||
    (g.decide object field now).producesMaterial &&
      spec.kind.toOption.any fun kind => g.generator.overflows kind spec.length

/-- The cycle over some fields breaks down before it comes to an end. A field that cannot be filled for the first time ends
it. -/
def breaksDown (g : Engine) (object : ManagedObject) (now : Instant) : List String → Bool
  | [] => false
  | field :: fields =>
    let ends := g.decide object field now = .generate && g.generator.refuses (g.spec object field)
    g.breaksDownAt object now field || !ends && breaksDown g object now fields

end Engine

end SecretRotation
