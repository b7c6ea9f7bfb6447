import SecretRotation.Cycle.Breakdown
import SecretRotation.Cycle.Evaluation
import SecretRotation.Reconcile.Store

/-!
# Reconciling

A cycle against a place where objects are kept: the object is read, evaluated, and written back if it has changed. Warnings
are told before the write, and success only once the write has gone through. An object that is not there is left alone.

## Main definitions

* `Backend`: what a place must be able to do.
* `Backend.conclude`: what follows the evaluation of an object.
* `Engine.reconcile`: one cycle.
* `Engine.tryCycle`: one cycle that may break down.
* `Engine.reconcileWithRetries`: cycles until one of them does not run into a conflict.
-/

namespace SecretRotation

/-- A place where objects are kept, with a clock and an ear for messages. -/
structure Backend (σ : Type) where
  get : ObjectKey → σ → Except StoreError (Option ManagedObject) × σ
  update : ManagedObject → σ → Except StoreError ManagedObject × σ
  publish : ManagedObject → Notification → σ → σ
  now : σ → Instant

/-- What one cycle came to. -/
structure ReconcileOutcome where
  requeueAfter : Option Duration
  /-- The object was written. -/
  updated : Bool
  fields : List FieldOutcome
deriving DecidableEq

/-- What a cycle over a missing object comes to. -/
def ReconcileOutcome.nothing : ReconcileOutcome := ⟨none, false, []⟩

/-- Why a cycle failed. -/
inductive ReconcileError where
  | store (cause : StoreError)
  | generation (failure : GenerationFailure)
deriving DecidableEq

namespace ReconcileError

/-- The complaint. -/
def message : ReconcileError → String
  | store cause => cause.message
  | generation failure => failure.message

/-- A conflict goes away with a fresh look at the object. -/
def isConflict : ReconcileError → Bool
  | store (.conflict _) => true
  | _ => false

end ReconcileError

variable {σ : Type}

namespace Backend

/-- Tells several messages about an object, in order. -/
def publishAll (b : Backend σ) (o : ManagedObject) (messages : List Notification) (s : σ) : σ :=
  messages.foldl (fun s message => b.publish o message s) s

/-- Tells the warnings of an evaluation, writes the object if it has changed, and then tells the rest. The answer says
whether there was a write. -/
def conclude (b : Backend σ) (o : ManagedObject) (v : Evaluation) (s : σ) : Except StoreError Bool × σ :=
  let s := b.publishAll o (v.notifications.filter Notification.isWarning) s
  match v.object with
  | none => (.ok false, s)
  | some changed =>
    match b.update changed s with
    | (.ok stored, s) => (.ok true, b.publishAll stored (v.notifications.filter (!·.isWarning)) s)
    | (.error cause, s) => (.error cause, s)

end Backend

namespace Engine

/-- One cycle over the object under a key, and the entropy that is left. -/
def reconcile (g : Engine) (b : Backend σ) (key : ObjectKey) (e : Entropy) (s : σ) :
    Except ReconcileError ReconcileOutcome × Entropy × σ :=
  match b.get key s with
  | (.error cause, s) => (.error (.store cause), e, s)
  | (.ok none, s) => (.ok .nothing, e, s)
  | (.ok (some o), s) =>
    match g.evaluate o (b.now s) e with
    | .error failure => (.error (.generation failure), e, b.publishAll o failure.notifications s)
    | .ok (v, rest) =>
      match b.conclude o v s with
      | (.ok updated, s) => (.ok ⟨v.requeueAfter, updated, v.outcomes⟩, rest, s)
      | (.error cause, s) => (.error (.store cause), rest, s)

/-- The cycle over the object under a key breaks down. -/
def reconcileBreaksDown (g : Engine) (b : Backend σ) (key : ObjectKey) (s : σ) : Bool :=
  match b.get key s with
  | (.ok (some o), s) => g.breaksDown o (b.now s) o.fields
  | _ => false

/-- One cycle over the object under a key. There is no answer if it breaks down over the object that was read. -/
def tryCycle (g : Engine) (b : Backend σ) (key : ObjectKey) (e : Entropy) (s : σ) :
    Option (Except ReconcileError ReconcileOutcome) × Entropy × σ :=
  if g.reconcileBreaksDown b key s then (none, e, (b.get key s).2)
  else
    let (answer, rest, s) := g.reconcile b key e s
    (some answer, rest, s)

/-- Cycles, each with a fresh look at the object, until one of them does not run into a conflict or until there have been
`retries` more than one. -/
def reconcileWithRetries (g : Engine) (b : Backend σ) (key : ObjectKey) :
    Nat → Entropy → σ → Option (Except ReconcileError ReconcileOutcome) × Entropy × σ
  | 0, e, s => g.tryCycle b key e s
  | retries + 1, e, s =>
    match g.tryCycle b key e s with
    | (some (.error cause), e, s) =>
      if cause.isConflict then g.reconcileWithRetries b key retries e s else (some (.error cause), e, s)
    | done => done

end Engine

end SecretRotation
