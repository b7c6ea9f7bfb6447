import SecretRotation.Window.Gate

/-!
# What to do with a field

A field without a value is filled at once, whatever the gate says. A field with a value is replaced when it is old enough
and the gate is open. Intervals that are too short are refused each time, whether or not the field is due.

The wait of a field that is put off is asked of the gate. Where the gate cannot tell it there is no decision, and what
`Decision.make` says is of no account.

## Main definitions

* `FieldState`: what a decision depends on.
* `Decision`: what to do.
* `Decision.make`: the decision for a field at an instant.
* `Decision.tryMake`: the decision, where there is one.
-/

namespace SecretRotation

/-- What is known of a field. -/
structure FieldState where
  hasValue : Bool
  interval : Option Duration
  /-- The time of the last write. -/
  baseline : Option Instant
deriving DecidableEq

/-- What to do with a field. -/
inductive Decision where
  /-- There is no value yet. -/
  | generate
  /-- The value is old enough, and the gate is open. -/
  | rotate
  /-- The value is old enough, but the gate opens only later. -/
  | defer (wait : Duration)
  /-- There is nothing to do before some time has passed, if ever. -/
  | skip (nextDue : Option Duration)
  /-- The interval is shorter than allowed. -/
  | belowMinimum (interval minimum : Duration)
deriving DecidableEq

namespace Decision

/-- The name of a decision. -/
def name : Decision → String
  | generate => "generate"
  | rotate => "rotate"
  | defer _ => "defer"
  | skip _ => "skip"
  | belowMinimum .. => "below_minimum"

/-- The decision asks for new material. -/
def producesMaterial : Decision → Bool
  | generate | rotate => true
  | defer _ | skip _ | belowMinimum .. => false

/-- What to do with a value that is replaced from time to time, and that was last written at some time. A stamp in the
future counts as just written. -/
def ofAge (interval : Duration) (baseline : Instant) (gate : Gate) (now : Instant) : Decision :=
  let age := now.elapsed baseline
  if age < interval then .skip (some (interval - age))
  else if gate.Open now then .rotate
  else .defer (gate.wait now)

/-- What to do with a field. A value without a stamp waits for the whole interval. -/
def make (state : FieldState) (minimum : Duration) (gate : Gate) (now : Instant) : Decision :=
  if state.hasValue then
    match state.interval with
    | none => .skip none
    | some interval =>
      if interval < minimum then .belowMinimum interval minimum
      else
        match state.baseline with
        | none => .skip (some interval)
        | some baseline => ofAge interval baseline gate now
  else .generate

/-- What to do with a field, unless it is put off and the gate cannot tell for how long. -/
def tryMake (state : FieldState) (minimum : Duration) (gate : Gate) (now : Instant) : Option Decision :=
  match make state minimum gate now with
  | .defer _ => (gate.tryWait now).map .defer
  | decision => some decision

end Decision

end SecretRotation
