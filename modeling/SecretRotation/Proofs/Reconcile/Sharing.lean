import Mathlib.Data.List.Induction
import SecretRotation.Proofs.Cycle.Fills
import SecretRotation.Reconcile.DryRun

/-!
# Sharing a store

Cycles and other clients may share one store. A cycle reads an object, and some time later it writes what came of it; in
between anything may happen to the store. Each write gives its object a version that was never given out before, as long as
the count of versions has not started over, and a write over another version than the one read is refused. So a cycle writes
only over exactly what it has read.

## Main definitions

* `Engine.finish`, `Engine.tryFinish`: what a cycle does after it has read its object, if it does not break down.
* `Access`, `Shared`, `Shared.run`: the accesses to a shared store and what they lead to, one after the other.
* `Shared.WritesTo`: an access writes the object under a key.
* `Shared.Rising`: the count of versions does not start over in the course of some accesses.
* `Shared.Sound`: what holds of the versions in a shared store.

## Main results

* `Shared.step_cases`: an access leaves the store alone, or it writes the object under one key.
* `Shared.rising_of_length`: the count of versions starts over after `2^64` accesses at the earliest.
* `Shared.sound_run`: the versions of a shared store are sound after any accesses.
* `Shared.newer_of_written`: after a write the version under the key is one that was not yet given out before.
-/

namespace SecretRotation

/-! ## The store -/

namespace Store

variable {s s' : Store} {o : ManagedObject} {key : ObjectKey}

theorem versionText_injective : Function.Injective versionText := by
  intro m n h
  have hdigits : Nat.toDigits 10 m.toNat = Nat.toDigits 10 n.toNat := String.ofList_injective h
  rw [← UInt64.toNat_inj, ← Nat.ofDigitChars_ten_toDigits (n := m.toNat), hdigits, Nat.ofDigitChars_ten_toDigits]

/-- A count of 64 bits that does not start over goes up by one. -/
theorem toNat_add_one_of_le {n : UInt64} (h : n ≤ n + 1) : (n + 1).toNat = n.toNat + 1 := by
  rw [UInt64.le_iff_toNat_le, UInt64.toNat_add, UInt64.toNat_one] at h
  rw [UInt64.toNat_add, UInt64.toNat_one]
  have := n.toNat_lt
  omega

theorem lt_add_one_of_le {n : UInt64} (h : n ≤ n + 1) : n < n + 1 := by
  rw [UInt64.lt_iff_toNat_lt, toNat_add_one_of_le h]
  exact Nat.lt_succ_self _

/-- A count that is behind another one does not start over before it. -/
theorem le_add_one_of_le {m n : UInt64} (hmn : m ≤ n) (hn : n ≤ n + 1) : m ≤ m + 1 ∧ m + 1 ≤ n + 1 := by
  have hnext := toNat_add_one_of_le hn
  have hbound := (n + 1).toNat_lt
  rw [UInt64.le_iff_toNat_le] at hmn
  have hm : (m + 1).toNat = m.toNat + 1 := by
    rw [UInt64.toNat_add, UInt64.toNat_one, Nat.mod_eq_of_lt (by omega)]
  rw [UInt64.le_iff_toNat_le, UInt64.le_iff_toNat_le, hm, hnext]
  omega

/-- Objects and counts are the same. -/
structure Untouched (s s' : Store) : Prop where
  objects : s'.objects = s.objects
  version : s'.version = s.version
  updates : s'.updates = s.updates

theorem Untouched.refl (s : Store) : s.Untouched s := ⟨rfl, rfl, rfl⟩

/-- Some object was put under a key, as the next version. -/
structure PutUnder (s : Store) (key : ObjectKey) (s' : Store) : Prop where
  others : ∀ k, k ≠ key → s'.objects k = s.objects k
  stored : ∃ o, s'.objects key = some o ∧ o.key = key ∧ o.version = some (versionText (s.version + 1))
  version : s'.version = s.version + 1
  updates : s'.updates = s.updates ∨ s'.updates = s.updates + 1

theorem putUnder_put (s : Store) (o : ManagedObject) : s.PutUnder o.key (s.put o).2 :=
  ⟨fun _ hk => if_neg hk, ⟨_, if_pos rfl, rfl, rfl⟩, rfl, Or.inl rfl⟩

/-- An update is refused and changes nothing, or it puts the object in place of one of the same version. -/
theorem update_cases (s : Store) (o : ManagedObject) :
    (∃ cause, (s.update o).1 = .error cause ∧ s.Untouched (s.update o).2) ∨
      ∃ current, s.get o.key = some current ∧ current.version = o.version ∧ (s.update o).1 = .ok (s.put o).1 ∧
        s.PutUnder o.key (s.update o).2 ∧ (s.update o).2.objects = (s.put o).2.objects := by
  rw [update]
  -- A failure that is due comes before all else, and only an object that is there has a version to compare.
  cases s.nextFailure with
  | some failure => exact Or.inl ⟨failure, rfl, rfl, rfl, rfl⟩
  | none =>
    cases hcurrent : s.objects o.key with
    | none => exact Or.inl ⟨_, rfl, Untouched.refl s⟩
    | some current =>
      by_cases hversion : current.version = o.version
      · have hput := s.putUnder_put o
        dsimp only
        rw [if_pos hversion]
        exact Or.inr ⟨current, hcurrent, hversion, rfl, ⟨hput.others, hput.stored, hput.version, Or.inr rfl⟩, rfl⟩
      · dsimp only
        rw [if_neg hversion]
        exact Or.inl ⟨_, rfl, Untouched.refl s⟩

/-- An update over the current version is refused only if the next update is to fail. -/
theorem update_of_current {current : ManagedObject} (hcurrent : s.get o.key = some current)
    (hversion : current.version = o.version) :
    s.update o =
      match s.nextFailure with
      | some cause => (.error cause, { s with nextFailure := none })
      | none => (.ok (s.put o).1, { (s.put o).2 with updates := s.updates + 1 }) := by
  have hobject : s.objects o.key = some current := hcurrent
  rw [update]
  cases s.nextFailure with
  | some cause => rfl
  | none =>
    simp only [hobject, if_pos hversion]
    rfl

end Store

/-! ## The second half of a cycle -/

namespace Engine

variable {σ : Type} {g : Engine} {o changed : ManagedObject} {now : Instant} {e rest : Entropy} {v : Evaluation}

/-- What a cycle does after it has read its object. -/
def finish (g : Engine) (b : Backend σ) (o : ManagedObject) (now : Instant) (e : Entropy) (s : σ) :
    Except ReconcileError ReconcileOutcome × Entropy × σ :=
  match g.evaluate o now e with
  | .error failure => (.error (.generation failure), e, b.publishAll o failure.notifications s)
  | .ok (v, rest) =>
    match b.conclude o v s with
    | (.ok updated, s) => (.ok ⟨v.requeueAfter, updated, v.outcomes⟩, rest, s)
    | (.error cause, s) => (.error (.store cause), rest, s)

/-- What a cycle does after it has read its object. If it breaks down over the object, there is no answer and nothing is
done. -/
def tryFinish (g : Engine) (b : Backend σ) (o : ManagedObject) (now : Instant) (e : Entropy) (s : σ) :
    Option (Except ReconcileError ReconcileOutcome) × Entropy × σ :=
  if g.breaksDown o now o.fields then (none, e, s)
  else
    let (answer, rest, s) := g.finish b o now e s
    (some answer, rest, s)

/-- A cycle over an object is its reading and what comes after. -/
theorem reconcile_eq_finish (b : Backend σ) {key : ObjectKey} {s s' : σ} (e : Entropy)
    (h : b.get key s = (.ok (some o), s')) : g.reconcile b key e s = g.finish b o (b.now s') e s' := by
  rw [reconcile, h]
  rfl

theorem tryCycle_eq_tryFinish (b : Backend σ) {key : ObjectKey} {s s' : σ} (e : Entropy)
    (h : b.get key s = (.ok (some o), s')) : g.tryCycle b key e s = g.tryFinish b o (b.now s') e s' := by
  rw [tryCycle, tryFinish, reconcileBreaksDown, reconcile_eq_finish b e h, h]

theorem tryFinish_of_stands (b : Backend σ) (h : g.breaksDown o now o.fields = false) (s : σ) :
    g.tryFinish b o now e s = (some (g.finish b o now e s).1, (g.finish b o now e s).2) := by
  rw [tryFinish, h]
  rfl

theorem tryFinish_of_breaksDown (b : Backend σ) (h : g.breaksDown o now o.fields = true) (s : σ) :
    g.tryFinish b o now e s = (none, e, s) := by
  rw [tryFinish, h]
  rfl

/-- Messages are recorded, and change nothing else. -/
theorem publishAll_dryRun (o : ManagedObject) (messages : List Notification) (s : DryRun) :
    DryRun.backend.publishAll o messages s = { s with events := s.events ++ messages.map (o.key, ·) } := by
  induction messages generalizing s with
  | nil => simp [Backend.publishAll]
  | cons message messages ih =>
    have hnext := ih (DryRun.backend.publish o message s)
    simp only [Backend.publishAll, List.foldl_cons] at hnext ⊢
    rw [hnext]
    simp [DryRun.backend]

theorem store_publishAll (o : ManagedObject) (messages : List Notification) (s : DryRun) :
    (DryRun.backend.publishAll o messages s).store = s.store := by
  rw [publishAll_dryRun]

theorem finish_of_no_object (s : DryRun) (h : ∀ v rest, g.evaluate o now e = .ok (v, rest) → v.object = none) :
    (g.finish DryRun.backend o now e s).2.2.store = s.store ∧
      ∀ outcome, (g.finish DryRun.backend o now e s).1 = .ok outcome → outcome.updated = false := by
  rw [finish]
  cases heval : g.evaluate o now e with
  | error failure => exact ⟨store_publishAll _ _ _, by simp⟩
  | ok done =>
    obtain ⟨v, rest⟩ := done
    simp only [Backend.conclude, h v rest heval]
    exact ⟨store_publishAll _ _ _, fun outcome houtcome => by cases houtcome; rfl⟩

/-- A cycle with an object to write does to the store what the update does, and fails if that does. -/
theorem finish_of_object (s : DryRun) (h : g.evaluate o now e = .ok (v, rest)) (hv : v.object = some changed) :
    (g.finish DryRun.backend o now e s).2.2.store = (s.store.update changed).2 ∧
      (g.finish DryRun.backend o now e s).1 =
        ((s.store.update changed).1.mapError .store).map fun _ => ⟨v.requeueAfter, true, v.outcomes⟩ := by
  -- Warnings are given before the update, all else after it, and neither touches the store.
  have hstore := store_publishAll o (v.notifications.filter Notification.isWarning) s
  simp only [finish, h, Backend.conclude, hv]
  simp only [DryRun.backend] at hstore ⊢
  rw [hstore]
  cases (s.store.update changed).1 with
  | error cause => exact ⟨rfl, rfl⟩
  | ok stored => exact ⟨store_publishAll _ _ _, rfl⟩

end Engine

/-! ## Accesses -/

/-- One access to a shared store. Cycles have numbers; the others are those of clients. -/
inductive Access where
  /-- A cycle reads the object under a key. -/
  | read (cycle : Nat) (key : ObjectKey)
  /-- A cycle evaluates what it has read, at the time of its clock, and writes what came of it. -/
  | finish (cycle : Nat) (now : Instant) (e : Entropy)
  | get (key : ObjectKey)
  | insert (o : ManagedObject)
  /-- A client may write any object with any version, also one that was never given out. -/
  | update (o : ManagedObject)
  /-- The next update is to fail. -/
  | fail (failure : StoreError)

/-- The access belongs to a cycle. -/
def Access.IsOf (c : Nat) : Access → Prop
  | read cycle _ | finish cycle _ _ => cycle = c
  | _ => False

/-- A shared store, and the objects with which cycles are under way. -/
structure Shared where
  place : DryRun
  held : Nat → Option ManagedObject

namespace Shared

variable (engines : Nat → Engine) {s : Shared} {a : Access} {key : ObjectKey} {c : Nat} {o : ManagedObject}

/-- No objects, and no cycle under way. -/
def start (now : Instant) : Shared := ⟨.start now, fun _ => none⟩

/-- The object with which a cycle is under way. -/
def hold (s : Shared) (c : Nat) (o : Option ManagedObject) : Shared :=
  { s with held := fun cycle => if cycle = c then o else s.held cycle }

/-- The state after a change of the store. -/
def withStore (s : Shared) (store : Store) : Shared := { s with place := { s.place with store } }

/-- What an access leads to. A cycle that has read no object has nothing to finish. -/
def step (s : Shared) : Access → Shared
  | .read c key => s.hold c (s.place.store.get key)
  -- Evaluation has no part in the store, so that it is as good as done together with the update.
  | .finish c now e =>
    match s.held c with
    | none => s
    | some o => { s with place := ((engines c).tryFinish DryRun.backend o now e s.place).2.2 }.hold c none
  | .get _ => s
  | .insert o => s.withStore (s.place.store.insert o)
  | .update o => s.withStore (s.place.store.update o).2
  | .fail failure => s.withStore (s.place.store.failNextUpdate failure)

/-- What accesses lead to, one after the other. -/
def run (s : Shared) (accesses : List Access) : Shared := accesses.foldl (step engines) s

/-- An access writes the object under a key. -/
def WritesTo (s : Shared) (key : ObjectKey) : Access → Prop
  | .finish c now e =>
    ∃ o outcome, s.held c = some o ∧ o.key = key ∧
      ((engines c).tryFinish DryRun.backend o now e s.place).1 = some (.ok outcome) ∧ outcome.updated = true
  | .insert o => o.key = key
  | .update o => o.key = key ∧ ∃ stored, (s.place.store.update o).1 = .ok stored
  | _ => False

theorem run_append (s : Shared) (before after : List Access) :
    run engines s (before ++ after) = run engines (run engines s before) after := List.foldl_append

/-- A cycle's update is refused, or it writes the object under the key of the one that it has read. -/
theorem finish_cases (g : Engine) (s : DryRun) (o : ManagedObject) (now : Instant) (e : Entropy) :
    (s.store.Untouched (g.finish DryRun.backend o now e s).2.2.store ∧
        ∀ outcome, (g.finish DryRun.backend o now e s).1 = .ok outcome → outcome.updated = false) ∨
      s.store.PutUnder o.key (g.finish DryRun.backend o now e s).2.2.store ∧
        ∃ outcome, (g.finish DryRun.backend o now e s).1 = .ok outcome ∧ outcome.updated = true := by
  by_cases hobject : ∃ v rest changed, g.evaluate o now e = .ok (v, rest) ∧ v.object = some changed
  · obtain ⟨v, rest, changed, heval, hv⟩ := hobject
    obtain ⟨hstore, hanswer⟩ := Engine.finish_of_object s heval hv
    obtain ⟨reports, -, -, rfl⟩ := Engine.exists_reports_of_evaluate heval
    obtain ⟨-, hkey, -⟩ := Evaluation.of_object_eq_some hv
    rw [hstore, hanswer]
    rcases s.store.update_cases changed with ⟨cause, hcause, huntouched⟩ | ⟨current, -, -, hok, hput, -⟩
    · rw [hcause]
      exact Or.inl ⟨huntouched, fun outcome houtcome => by cases houtcome⟩
    · rw [hok]
      exact Or.inr ⟨hkey ▸ hput, _, rfl, rfl⟩
  · have hnone : ∀ v rest, g.evaluate o now e = .ok (v, rest) → v.object = none := fun v rest heval =>
      Option.eq_none_iff_forall_ne_some.mpr fun changed hv => hobject ⟨v, rest, changed, heval, hv⟩
    obtain ⟨hstore, hupdated⟩ := Engine.finish_of_no_object s hnone
    rw [hstore]
    exact Or.inl ⟨.refl _, hupdated⟩

/-- A cycle that breaks down writes nothing either. -/
theorem tryFinish_cases (g : Engine) (s : DryRun) (o : ManagedObject) (now : Instant) (e : Entropy) :
    (s.store.Untouched (g.tryFinish DryRun.backend o now e s).2.2.store ∧
        ∀ outcome, (g.tryFinish DryRun.backend o now e s).1 = some (.ok outcome) → outcome.updated = false) ∨
      s.store.PutUnder o.key (g.tryFinish DryRun.backend o now e s).2.2.store ∧
        ∃ outcome, (g.tryFinish DryRun.backend o now e s).1 = some (.ok outcome) ∧ outcome.updated = true := by
  cases hstands : g.breaksDown o now o.fields with
  | true =>
    rw [Engine.tryFinish_of_breaksDown _ hstands]
    exact Or.inl ⟨.refl _, by simp⟩
  | false =>
    simp only [Engine.tryFinish_of_stands _ hstands, Option.some.injEq]
    exact finish_cases g s o now e

/-- An access leaves objects and counts alone, or it writes the object under one key. -/
theorem step_cases (s : Shared) (a : Access) :
    s.place.store.Untouched (step engines s a).place.store ∧ (∀ key, ¬ WritesTo engines s key a) ∨
      ∃ key, s.place.store.PutUnder key (step engines s a).place.store ∧ ∀ k, WritesTo engines s k a ↔ key = k := by
  cases a with
  | read c key => exact Or.inl ⟨.refl _, fun _ h => h⟩
  | get key => exact Or.inl ⟨.refl _, fun _ h => h⟩
  | fail failure => exact Or.inl ⟨⟨rfl, rfl, rfl⟩, fun _ h => h⟩
  | insert o => exact Or.inr ⟨o.key, s.place.store.putUnder_put o, fun _ => Iff.rfl⟩
  | update o =>
    rcases s.place.store.update_cases o with ⟨cause, hcause, huntouched⟩ | ⟨-, -, -, hok, hput, -⟩
    · refine Or.inl ⟨huntouched, fun key h => ?_⟩
      obtain ⟨-, stored, hstored⟩ := h
      rw [hcause] at hstored
      cases hstored
    · exact Or.inr ⟨o.key, hput, fun k => ⟨And.left, fun h => ⟨h, _, hok⟩⟩⟩
  | finish c now e =>
    simp only [step, WritesTo]
    cases s.held c with
    | none => exact Or.inl ⟨.refl _, by simp⟩
    | some o =>
      rcases tryFinish_cases (engines c) s.place o now e with ⟨huntouched, hnot⟩ | ⟨hput, houtcome⟩
      · refine Or.inl ⟨huntouched, ?_⟩
        rintro key ⟨o', outcome, ho', -, houtcome, hupdated⟩
        obtain rfl := Option.some.inj ho'
        rw [hnot outcome houtcome] at hupdated
        cases hupdated
      · refine Or.inr ⟨o.key, hput, fun k => ⟨?_, fun hk => ?_⟩⟩
        · rintro ⟨o', -, ho', hk, -⟩
          exact (Option.some.inj ho') ▸ hk
        · obtain ⟨outcome, hok, hupdated⟩ := houtcome
          exact ⟨o, outcome, rfl, hk, hok, hupdated⟩

theorem putUnder_of_writesTo (h : WritesTo engines s key a) :
    s.place.store.PutUnder key (step engines s a).place.store := by
  rcases step_cases engines s a with ⟨-, hnot⟩ | ⟨k, hput, hwrites⟩
  · exact absurd h (hnot key)
  · exact (hwrites key).mp h ▸ hput

theorem held_step_of_not_isOf (h : ¬ a.IsOf c) : (step engines s a).held c = s.held c := by
  cases a with
  | read cycle key => exact if_neg fun heq => h heq.symm
  | finish cycle now e =>
    simp only [step]
    cases s.held cycle with
    | none => rfl
    | some o => exact if_neg fun heq => h heq.symm
  | get key => rfl
  | insert o => rfl
  | update o => rfl
  | fail failure => rfl

/-! ## Versions -/

/-- The count of versions does not start over in the course of some accesses. -/
def Rising (s : Shared) : List Access → Prop
  | [] => True
  | a :: rest => s.place.store.version ≤ (step engines s a).place.store.version ∧ Rising (step engines s a) rest

theorem rising_append {before after : List Access} :
    Rising engines s (before ++ after) ↔ Rising engines s before ∧ Rising engines (run engines s before) after := by
  induction before generalizing s with
  | nil => simp [Rising, run]
  | cons a rest ih =>
    rw [List.cons_append, Rising, Rising, ih, and_assoc]
    rfl

/-- An access takes the count one further at most. -/
theorem toNat_version_step (s : Shared) (a : Access) (h : s.place.store.version.toNat + 1 < 2 ^ 64) :
    s.place.store.version ≤ (step engines s a).place.store.version ∧
      (step engines s a).place.store.version.toNat ≤ s.place.store.version.toNat + 1 := by
  rw [UInt64.le_iff_toNat_le]
  rcases step_cases engines s a with ⟨hstore, -⟩ | ⟨key, hstore, -⟩
  · rw [hstore.version]
    omega
  · rw [hstore.version, UInt64.toNat_add, UInt64.toNat_one, Nat.mod_eq_of_lt h]
    omega

/-- The count has place for all accesses there will ever be. -/
theorem rising_of_length {accesses : List Access} (h : s.place.store.version.toNat + accesses.length < 2 ^ 64) :
    Rising engines s accesses := by
  induction accesses generalizing s with
  | nil => exact trivial
  | cons a rest ih =>
    rw [List.length_cons] at h
    obtain ⟨hrises, hnext⟩ := toNat_version_step engines s a (by omega)
    exact ⟨hrises, ih (by omega)⟩

/-- One object is inserted several times. Each time it gets the next version. -/
theorem run_replicate_insert (s : Shared) (o : ManagedObject) (n : Nat) :
    (run engines s (List.replicate n (.insert o))).held = s.held ∧
      (run engines s (List.replicate n (.insert o))).place.store.nextFailure = s.place.store.nextFailure ∧
      (run engines s (List.replicate n (.insert o))).place.store.version = s.place.store.version + UInt64.ofNat n ∧
      (0 < n → (run engines s (List.replicate n (.insert o))).place.store.get o.key =
        some { o with version := some (Store.versionText (s.place.store.version + UInt64.ofNat n)) }) := by
  induction n with
  | zero => exact ⟨rfl, rfl, (UInt64.add_zero _).symm, fun h => absurd h (Nat.lt_irrefl 0)⟩
  | succ n ih =>
    obtain ⟨hheld, hpending, hversion, -⟩ := ih
    have hnext : s.place.store.version + UInt64.ofNat n + 1 = s.place.store.version + UInt64.ofNat (n + 1) := by
      rw [UInt64.ofNat_add, UInt64.add_assoc]
      rfl
    rw [List.replicate_succ', run_append, ← hnext, ← hversion]
    exact ⟨hheld, hpending, rfl, fun _ => if_pos rfl⟩

/-- All versions in a shared store were given out, each once: an object held by a cycle is the one in the store if its
version is. -/
structure Sound (s : Shared) : Prop where
  keyed : ∀ key o, s.place.store.get key = some o → o.key = key
  stored : ∀ key o, s.place.store.get key = some o →
    ∃ n, n ≤ s.place.store.version ∧ o.version = some (Store.versionText n)
  held : ∀ c o, s.held c = some o → ∃ n, n ≤ s.place.store.version ∧ o.version = some (Store.versionText n)
  current : ∀ c o, s.held c = some o → ∀ stored, s.place.store.get o.key = some stored → stored.version = o.version →
    stored = o

theorem sound_start (now : Instant) : (start now).Sound := by
  refine ⟨?_, ?_, ?_, ?_⟩ <;> intros <;> contradiction

/-- Soundness depends on objects, versions and held objects only. -/
theorem Sound.of_untouched {s' : Shared} (h : s.Sound) (hstore : s.place.store.Untouched s'.place.store)
    (hheld : ∀ c o, s'.held c = some o → s.held c = some o) : s'.Sound := by
  have hget : ∀ key, s'.place.store.get key = s.place.store.get key := fun key => congrFun hstore.objects key
  refine ⟨fun key o ho => h.keyed key o (hget key ▸ ho), fun key o ho => ?_, fun c o ho => ?_, fun c o ho stored => ?_⟩
  · rw [hstore.version]
    exact h.stored key o (hget key ▸ ho)
  · rw [hstore.version]
    exact h.held c o (hheld c o ho)
  · rw [hget]
    exact h.current c o (hheld c o ho) stored

/-- A new version was held by no cycle before. -/
theorem Sound.of_putUnder {s' : Shared} (h : s.Sound) (hstore : s.place.store.PutUnder key s'.place.store)
    (hrises : s.place.store.version ≤ s'.place.store.version)
    (hheld : ∀ c o, s'.held c = some o → s.held c = some o) : s'.Sound := by
  obtain ⟨new, hnew, hkey, hversion⟩ := hstore.stored
  -- What is stored now is the new object, or it was stored before under another key.
  have hget : ∀ k o, s'.place.store.get k = some o → k = key ∧ o = new ∨ k ≠ key ∧ s.place.store.get k = some o := by
    intro k o ho
    by_cases hk : k = key
    · subst hk
      exact Or.inl ⟨rfl, Option.some.inj (ho.symm.trans hnew)⟩
    · exact Or.inr ⟨hk, (hstore.others k hk).symm.trans ho⟩
  have hlater : s.place.store.version < s'.place.store.version := by
    rw [hstore.version] at hrises ⊢
    exact Store.lt_add_one_of_le hrises
  rw [← hstore.version] at hversion
  refine ⟨fun k o ho => ?_, fun k o ho => ?_, fun c o ho => ?_, fun c o ho stored hstored hsame => ?_⟩
  · rcases hget k o ho with ⟨rfl, rfl⟩ | ⟨-, ho⟩
    · exact hkey
    · exact h.keyed k o ho
  · rcases hget k o ho with ⟨-, rfl⟩ | ⟨-, ho⟩
    · exact ⟨_, UInt64.le_refl _, hversion⟩
    · obtain ⟨n, hn, hv⟩ := h.stored k o ho
      exact ⟨n, UInt64.le_trans hn hrises, hv⟩
  · obtain ⟨n, hn, hv⟩ := h.held c o (hheld c o ho)
    exact ⟨n, UInt64.le_trans hn hrises, hv⟩
  · rcases hget _ _ hstored with ⟨-, rfl⟩ | ⟨-, hstored⟩
    · -- The held object would have a version that has only now been given out.
      obtain ⟨n, hn, hv⟩ := h.held c o (hheld c o ho)
      rw [hversion, hv] at hsame
      obtain rfl := Store.versionText_injective (Option.some.inj hsame)
      exact absurd hlater (UInt64.not_lt.mpr hn)
    · exact h.current c o (hheld c o ho) stored hstored hsame

/-- What a cycle has just read is current. -/
theorem Sound.read (h : s.Sound) (c : Nat) (key : ObjectKey) : (s.hold c (s.place.store.get key)).Sound := by
  refine ⟨h.keyed, h.stored, fun cycle o ho => ?_, fun cycle o ho stored hstored hsame => ?_⟩
  · by_cases hc : cycle = c
    · exact h.stored key o ((if_pos hc).symm.trans ho)
    · exact h.held cycle o ((if_neg hc).symm.trans ho)
  · by_cases hc : cycle = c
    · have ho' := (if_pos hc).symm.trans ho
      rw [h.keyed key o ho'] at hstored
      exact Option.some.inj (hstored.symm.trans ho')
    · exact h.current cycle o ((if_neg hc).symm.trans ho) stored hstored hsame

/-- A cycle that holds an object after an access of its own has just read it. -/
theorem not_isOf_of_held_step (hread : ∀ key, a ≠ .read c key) (h : (step engines s a).held c = some o) :
    ¬ a.IsOf c := by
  intro hof
  cases a with
  | read cycle key =>
    obtain rfl : cycle = c := hof
    exact hread key rfl
  | finish cycle now e =>
    obtain rfl : cycle = c := hof
    cases hheld : s.held cycle with
    | none => simp [step, hheld] at h
    | some o' => simp [step, hheld, hold] at h
  | get key => exact hof
  | insert o => exact hof
  | update o => exact hof
  | fail failure => exact hof

theorem sound_step (h : s.Sound) (a : Access)
    (hrises : s.place.store.version ≤ (step engines s a).place.store.version) : (step engines s a).Sound := by
  -- By reading alone a cycle comes to hold an object that it did not hold before.
  by_cases hread : ∃ c key, a = .read c key
  · obtain ⟨c, key, rfl⟩ := hread
    exact h.read c key
  · have hheld : ∀ c o, (step engines s a).held c = some o → s.held c = some o := fun c o ho => by
      have hnot := not_isOf_of_held_step engines (fun key heq => hread ⟨c, key, heq⟩) ho
      rwa [held_step_of_not_isOf engines hnot] at ho
    rcases step_cases engines s a with ⟨hstore, -⟩ | ⟨key, hstore, -⟩
    · exact h.of_untouched hstore hheld
    · exact h.of_putUnder hstore hrises hheld

theorem sound_run (h : s.Sound) {accesses : List Access} (hrising : Rising engines s accesses) :
    (run engines s accesses).Sound := by
  induction accesses generalizing s with
  | nil => exact h
  | cons a rest ih => exact ih (sound_step engines h a hrising.1) hrising.2

/-- There are no more updates than versions. -/
theorem updates_le_version_run (h : s.place.store.updates ≤ s.place.store.version) {accesses : List Access}
    (hrising : Rising engines s accesses) :
    (run engines s accesses).place.store.updates ≤ (run engines s accesses).place.store.version := by
  induction accesses generalizing s with
  | nil => exact h
  | cons a rest ih =>
    refine ih ?_ hrising.2
    have hrises := hrising.1
    rcases step_cases engines s a with ⟨hstore, -⟩ | ⟨key, hstore, -⟩
    · rw [hstore.updates, hstore.version]
      exact h
    · rw [hstore.version] at hrises ⊢
      rcases hstore.updates with hsame | hnext
      · rw [hsame]
        exact UInt64.le_trans h hrises
      · rw [hnext]
        exact (Store.le_add_one_of_le h hrises).2

/-! ## Newer versions -/

/-- The version under a key was given out after the first `n`. -/
def NewerThan (s : Shared) (n : UInt64) (key : ObjectKey) : Prop :=
  ∃ m o, n < m ∧ s.place.store.get key = some o ∧ o.version = some (Store.versionText m)

theorem newerThan_of_putUnder {s' : Shared} {n : UInt64} (h : s.place.store.PutUnder key s'.place.store)
    (hrises : s.place.store.version ≤ s'.place.store.version) (hn : n ≤ s.place.store.version) : s'.NewerThan n key := by
  obtain ⟨o, ho, -, hversion⟩ := h.stored
  rw [h.version] at hrises
  exact ⟨_, o, UInt64.lt_of_le_of_lt hn (Store.lt_add_one_of_le hrises), ho, hversion⟩

theorem version_le_run {accesses : List Access} (hrising : Rising engines s accesses) :
    s.place.store.version ≤ (run engines s accesses).place.store.version := by
  induction accesses generalizing s with
  | nil => exact UInt64.le_refl _
  | cons a rest ih => exact UInt64.le_trans hrising.1 (ih hrising.2)

/-- Objects are never removed, and never replaced by older ones. -/
theorem newerThan_step {n : UInt64} (hn : n ≤ s.place.store.version) (h : s.NewerThan n key) (a : Access)
    (hrises : s.place.store.version ≤ (step engines s a).place.store.version) : (step engines s a).NewerThan n key := by
  obtain ⟨m, o, hm, ho, hversion⟩ := h
  rcases step_cases engines s a with ⟨hstore, -⟩ | ⟨k, hstore, -⟩
  · exact ⟨m, o, hm, (congrFun hstore.objects key).trans ho, hversion⟩
  · by_cases hk : key = k
    · exact newerThan_of_putUnder (hk ▸ hstore) hrises hn
    · exact ⟨m, o, hm, (hstore.others key hk).trans ho, hversion⟩

theorem newerThan_run {n : UInt64} (hn : n ≤ s.place.store.version) (h : s.NewerThan n key) {accesses : List Access}
    (hrising : Rising engines s accesses) : (run engines s accesses).NewerThan n key := by
  induction accesses generalizing s with
  | nil => exact h
  | cons a rest ih => exact ih (UInt64.le_trans hn hrising.1) (newerThan_step engines hn h a hrising.1) hrising.2

/-- After a write the version under the key is newer than all before, whatever else happens. -/
theorem newer_of_written {n : UInt64} {before after : List Access} (hrising : Rising engines s (before ++ a :: after))
    (hn : n ≤ s.place.store.version) (h : WritesTo engines (run engines s before) key a) :
    (run engines s (before ++ a :: after)).NewerThan n key := by
  obtain ⟨hbefore, hstep, hafter⟩ := (rising_append engines).mp hrising
  have hn' := UInt64.le_trans hn (version_le_run engines hbefore)
  have hnewer := newerThan_of_putUnder (putUnder_of_writesTo engines h) hstep hn'
  rw [run_append]
  exact newerThan_run engines (UInt64.le_trans hn' hstep) hnewer hafter

end Shared

end SecretRotation
