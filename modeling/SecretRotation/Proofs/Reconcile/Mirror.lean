import SecretRotation.Reconcile.Basic

/-!
# Views of a place

Something may be kept beside a place where objects are, such as a record of what was asked of it. The place itself is a view
of both together. Cycles do not notice what is beside it: they give the same answers, and leave the same view behind.

## Main definitions

* `Backend.Mirrors`: a place is a view of another one.

## Main results

* `Backend.Mirrors.reconcile`: a cycle is the same over a place and over a view of it.
* `Backend.Mirrors.reconcileWithRetries`: so are cycles that are tried again.
-/

namespace SecretRotation

variable {σ τ : Type}

/-- A place answers like the one that it is a view of, and stays a view of it. -/
structure Backend.Mirrors (b' : Backend τ) (b : Backend σ) (view : σ → τ) : Prop where
  get : ∀ key s, b'.get key (view s) = (b.get key s).map id view
  update : ∀ o s, b'.update o (view s) = (b.update o s).map id view
  publish : ∀ o n s, b'.publish o n (view s) = view (b.publish o n s)
  now : ∀ s, b'.now (view s) = b.now s

namespace Backend.Mirrors

variable {b' : Backend τ} {b : Backend σ} {view : σ → τ} (h : b'.Mirrors b view)

include h

theorem publishAll (o : ManagedObject) (messages : List Notification) (s : σ) :
    b'.publishAll o messages (view s) = view (b.publishAll o messages s) := by
  induction messages generalizing s with
  | nil => rfl
  | cons message messages ih =>
    rw [Backend.publishAll, List.foldl_cons, h.publish]
    exact ih _

theorem conclude (o : ManagedObject) (v : Evaluation) (s : σ) :
    b'.conclude o v (view s) = (b.conclude o v s).map id view := by
  rw [Backend.conclude, Backend.conclude, h.publishAll]
  generalize b.publishAll o _ s = s
  cases v.object with
  | none => rfl
  | some changed =>
    dsimp only
    rw [h.update]
    cases b.update changed s with
    | mk answer s =>
      cases answer with
      | ok stored => exact congrArg (Prod.mk _) (h.publishAll stored _ s)
      | error cause => rfl

theorem reconcile (g : Engine) (key : ObjectKey) (e : Entropy) (s : σ) :
    g.reconcile b' key e (view s) = (g.reconcile b key e s).map id (.map id view) := by
  rw [Engine.reconcile, Engine.reconcile, h.get]
  cases b.get key s with
  | mk found s =>
    match found with
    | .error cause => rfl
    | .ok none => rfl
    | .ok (some o) =>
      simp only [Prod.map_apply, id_eq, h.now]
      cases g.evaluate o (b.now s) e with
      | error failure => exact congrArg (fun left => (_, _, left)) (h.publishAll o _ s)
      | ok done =>
        obtain ⟨v, rest⟩ := done
        dsimp only
        rw [h.conclude]
        cases b.conclude o v s with
        | mk answer s => cases answer <;> rfl

theorem reconcileBreaksDown (g : Engine) (key : ObjectKey) (s : σ) :
    g.reconcileBreaksDown b' key (view s) = g.reconcileBreaksDown b key s := by
  rw [Engine.reconcileBreaksDown, Engine.reconcileBreaksDown, h.get]
  cases b.get key s with
  | mk found s =>
    match found with
    | .error cause => rfl
    | .ok none => rfl
    | .ok (some o) =>
      simp only [Prod.map_apply, id_eq, h.now]

theorem tryCycle (g : Engine) (key : ObjectKey) (e : Entropy) (s : σ) :
    g.tryCycle b' key e (view s) = (g.tryCycle b key e s).map id (.map id view) := by
  rw [Engine.tryCycle, Engine.tryCycle, h.reconcileBreaksDown, h.reconcile, h.get]
  split <;> rfl

theorem reconcileWithRetries (g : Engine) (key : ObjectKey) (retries : Nat) (e : Entropy) (s : σ) :
    g.reconcileWithRetries b' key retries e (view s) = (g.reconcileWithRetries b key retries e s).map id (.map id view) := by
  induction retries generalizing e s with
  | zero => exact h.tryCycle g key e s
  | succ retries ih =>
    rw [Engine.reconcileWithRetries, Engine.reconcileWithRetries, h.tryCycle]
    match g.tryCycle b key e s with
    | (none, rest, s) => rfl
    | (some (.ok outcome), rest, s) => rfl
    | (some (.error cause), rest, s) =>
      simp only [Prod.map_apply, id_eq, ih]
      cases cause.isConflict <;> rfl

end Backend.Mirrors

end SecretRotation
