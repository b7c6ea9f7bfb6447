import SecretRotation.Proofs.Reconcile.Serializable

/-!
# One cycle at a store

A cycle over the object under a key does one of five things: it finds no object; it fails and tells why; it has nothing to
write and tells its warnings; its write is refused, after the warnings; or it writes, and tells of its success after that.
Nothing else changes in any of them, and each write gets a version that no object has had before.

## Main definitions

* `Shared.Gave`: an object had some version in the course of some accesses.
* `Ending`, `Engine.EndsAs`: the ways in which a cycle ends, and when it does.
* `Ending.Leads`: what a cycle answers and leaves behind if it ends in some way.
* `Engine.Atomic`: a cycle ends in one way, and tells of no success without a write.

## Main results

* `Engine.leads_of_endsAs`: a cycle leads to what its ending says.
* `Engine.existsUnique_endsAs`: a cycle that does not break down ends in one way.
* `Engine.atomic_iff`: a cycle is atomic unless it breaks down.
* `Engine.exists_cycle_without_ending`: not all cycles are.
-/

namespace SecretRotation

/-- An object had some version after one of the accesses, or between them. -/
def Shared.Gave (engines : Nat → Engine) (first : Instant) (accesses : List Access) (version : String) : Prop :=
  ∃ before after key o, accesses = before ++ after ∧
    (Shared.run engines (Shared.start first) before).place.store.get key = some o ∧ o.version = some version

/-- Versions are given out in order. -/
theorem Shared.exists_of_gave {engines : Nat → Engine} {first : Instant} {accesses : List Access} {version : String}
    (hrising : Rising engines (start first) accesses) (h : Shared.Gave engines first accesses version) :
    ∃ n, n ≤ (Shared.run engines (Shared.start first) accesses).place.store.version ∧ version = Store.versionText n := by
  obtain ⟨before, after, key, o, rfl, hget, hversion⟩ := h
  obtain ⟨hbefore, hafter⟩ := (rising_append engines).mp hrising
  obtain ⟨n, hn, hv⟩ := (sound_run engines (sound_start first) hbefore).stored key o hget
  refine ⟨n, ?_, Option.some.inj (hversion.symm.trans hv)⟩
  rw [Shared.run_append]
  exact UInt64.le_trans hn (version_le_run engines hafter)

/-- The warnings of a cycle. -/
def Evaluation.warnings (v : Evaluation) : List Notification := v.notifications.filter Notification.isWarning

/-- What a cycle tells besides. -/
def Evaluation.confirmations (v : Evaluation) : List Notification := v.notifications.filter (!·.isWarning)

/-- Messages about the object under a key are recorded. -/
def DryRun.tell (s : DryRun) (key : ObjectKey) (messages : List Notification) : DryRun :=
  { s with events := s.events ++ messages.map (key, ·) }

/-! ## Ways to end -/

/-- The ways in which a cycle ends. -/
inductive Ending where
  /-- There is no object. -/
  | missing
  /-- A field could not be filled. -/
  | failed (failure : GenerationFailure)
  /-- There is nothing to write. -/
  | settled (v : Evaluation)
  /-- The store refuses the write. -/
  | refused (v : Evaluation) (cause : StoreError)
  /-- An object is stored. -/
  | stored (v : Evaluation) (written : ManagedObject)

variable {g : Engine} {key : ObjectKey} {o changed : ManagedObject} {now : Instant} {e rest : Entropy} {s : DryRun}
  {v : Evaluation} {failure : GenerationFailure} {cause : StoreError}

/-- When a cycle over the object under a key ends in each of these ways. -/
inductive Engine.EndsAs (g : Engine) (key : ObjectKey) (e : Entropy) (s : DryRun) : Ending → Prop
  | missing (hfound : s.store.get key = none) : EndsAs g key e s .missing
  | failed {o : ManagedObject} {failure : GenerationFailure} (hfound : s.store.get key = some o)
      (hends : g.Ends o s.now e (.error failure)) : EndsAs g key e s (.failed failure)
  | settled {o : ManagedObject} {v : Evaluation} {rest : Entropy} (hfound : s.store.get key = some o)
      (hends : g.Ends o s.now e (.ok (v, rest))) (hobject : v.object = none) : EndsAs g key e s (.settled v)
  | refused {o changed : ManagedObject} {v : Evaluation} {rest : Entropy} {cause : StoreError}
      (hfound : s.store.get key = some o) (hends : g.Ends o s.now e (.ok (v, rest))) (hobject : v.object = some changed)
      (hupdate : (s.store.update changed).1 = .error cause) : EndsAs g key e s (.refused v cause)
  | stored {o changed written : ManagedObject} {v : Evaluation} {rest : Entropy} (hfound : s.store.get key = some o)
      (hends : g.Ends o s.now e (.ok (v, rest))) (hobject : v.object = some changed)
      (hupdate : (s.store.update changed).1 = .ok written) : EndsAs g key e s (.stored v written)

/-- What a cycle over the object under a key answers and leaves behind if it ends in this way. -/
def Ending.Leads (key : ObjectKey) (s : DryRun) (answer : Except ReconcileError ReconcileOutcome) (after : DryRun) :
    Ending → Prop
  | .missing => answer = .ok .nothing ∧ after = s
  | .failed failure => answer = .error (.generation failure) ∧ after = s.tell key failure.notifications
  | .settled v => answer = .ok ⟨v.requeueAfter, false, v.outcomes⟩ ∧ after = s.tell key v.warnings
  | .refused v cause =>
    answer = .error (.store cause) ∧ s.store.Untouched after.store ∧
      -- Only a failure that was asked for refuses the write, and it has been used up.
      s.store.nextFailure = some cause ∧ after.store.nextFailure = none ∧
      after.events = (s.tell key v.warnings).events ∧ after.now = s.now
  | .stored v written =>
    answer = .ok ⟨v.requeueAfter, true, v.outcomes⟩ ∧
      (∃ changed, v.object = some changed ∧
        written = { changed with version := some (Store.versionText (s.store.version + 1)) }) ∧
      after.store.get key = some written ∧ (∀ k, k ≠ key → after.store.get k = s.store.get k) ∧
      after.store.version.toNat = s.store.version.toNat + 1 ∧ after.store.updates.toNat = s.store.updates.toNat + 1 ∧
      after.store.nextFailure = s.store.nextFailure ∧
      after.events = ((s.tell key v.warnings).tell key v.confirmations).events ∧ after.now = s.now

/-- A cycle over the object under a key ends in one way. It tells of a success only if an object has been stored, which has
a version that comes after all that were given out before. -/
structure Engine.Atomic (g : Engine) (key : ObjectKey) (e : Entropy) (s : DryRun) (gave : String → Prop) : Prop where
  ends : ∃! ending, g.EndsAs key e s ending ∧
    ending.Leads key s (g.reconcile DryRun.backend key e s).1 (g.reconcile DryRun.backend key e s).2.2
  told : ∃ told, (g.reconcile DryRun.backend key e s).2.2.events = s.events ++ told ∧
    ∀ event ∈ told, event.2.isWarning = false →
      ∃ outcome, (g.reconcile DryRun.backend key e s).1 = .ok outcome ∧ outcome.updated = true ∧
        (g.reconcile DryRun.backend key e s).2.2.store.updates.toNat = s.store.updates.toNat + 1
  fresh : ∀ v written, g.EndsAs key e s (.stored v written) →
    ∃ n, written.version = some (Store.versionText n) ∧ ∀ version, gave version → ∃ m < n, version = Store.versionText m

/-! ## What comes of the evaluation -/

namespace Engine

theorem publishAll_eq_tell (o : ManagedObject) (messages : List Notification) (s : DryRun) :
    DryRun.backend.publishAll o messages s = s.tell o.key messages := publishAll_dryRun o messages s

/-- The place after the store has been asked to write. -/
theorem conclude_of_object (s : DryRun) (hobject : v.object = some changed) :
    DryRun.backend.conclude o v s =
      match s.store.update changed with
      | (.ok written, store) => (.ok true, ({ s.tell o.key v.warnings with store } : DryRun).tell written.key v.confirmations)
      | (.error cause, store) => (.error cause, { s.tell o.key v.warnings with store }) := by
  simp only [Backend.conclude, hobject, publishAll_eq_tell]
  have hupdate : DryRun.backend.update changed (s.tell o.key v.warnings) =
      ((s.store.update changed).1, { s.tell o.key v.warnings with store := (s.store.update changed).2 }) := rfl
  rw [Evaluation.warnings] at hupdate ⊢
  rw [hupdate]
  cases s.store.update changed with
  | mk answer store => cases answer <;> rfl

/-- How a cycle ends, unless it breaks down. -/
def ending (g : Engine) (key : ObjectKey) (e : Entropy) (s : DryRun) : Ending :=
  match s.store.get key with
  | none => .missing
  | some o =>
    match g.evaluate o s.now e with
    | .error failure => .failed failure
    | .ok (v, _) =>
      match v.object with
      | none => .settled v
      | some changed =>
        match (s.store.update changed).1 with
        | .error cause => .refused v cause
        | .ok written => .stored v written

theorem reconcileBreaksDown_of_found (hfound : s.store.get key = some o) :
    g.reconcileBreaksDown DryRun.backend key s = g.breaksDown o s.now o.fields := by
  simp [reconcileBreaksDown, DryRun.backend, hfound]

theorem endsAs_iff {c : Ending} :
    g.EndsAs key e s c ↔ g.reconcileBreaksDown DryRun.backend key s = false ∧ c = g.ending key e s := by
  constructor
  · intro h
    cases h with
    | missing hfound => simp [ending, reconcileBreaksDown, DryRun.backend, hfound]
    | failed hfound hends =>
      rw [reconcileBreaksDown_of_found hfound]
      simp [ending, hfound, hends.1, hends.2]
    | settled hfound hends hobject =>
      rw [reconcileBreaksDown_of_found hfound]
      simp [ending, hfound, hends.1, hends.2, hobject]
    | refused hfound hends hobject hupdate =>
      rw [reconcileBreaksDown_of_found hfound]
      simp [ending, hfound, hends.1, hends.2, hobject, hupdate]
    | stored hfound hends hobject hupdate =>
      rw [reconcileBreaksDown_of_found hfound]
      simp [ending, hfound, hends.1, hends.2, hobject, hupdate]
  · rintro ⟨hstands, rfl⟩
    rw [ending]
    cases hfound : s.store.get key with
    | none => exact .missing hfound
    | some o =>
      rw [reconcileBreaksDown_of_found hfound] at hstands
      dsimp only
      cases heval : g.evaluate o s.now e with
      | error failure => exact .failed hfound ⟨hstands, heval⟩
      | ok done =>
        obtain ⟨v, rest⟩ := done
        dsimp only
        cases hobject : v.object with
        | none => exact .settled hfound ⟨hstands, heval⟩ hobject
        | some changed =>
          dsimp only
          cases hupdate : (s.store.update changed).1 with
          | error cause => exact .refused hfound ⟨hstands, heval⟩ hobject hupdate
          | ok written => exact .stored hfound ⟨hstands, heval⟩ hobject hupdate

/-- An object to write has the key and the version of the one that was read. -/
theorem exists_update_eq (hkeyed : o.key = key) (hfound : s.store.get key = some o)
    (heval : g.evaluate o now e = .ok (v, rest)) (hobject : v.object = some changed) :
    changed.key = key ∧
      s.store.update changed =
        match s.store.nextFailure with
        | some cause => (.error cause, { s.store with nextFailure := none })
        | none => (.ok (s.store.put changed).1, { (s.store.put changed).2 with updates := s.store.updates + 1 }) := by
  obtain ⟨reports, -, -, rfl⟩ := exists_reports_of_evaluate heval
  obtain ⟨-, hkey, hversion, -⟩ := Evaluation.of_object_eq_some hobject
  have hcurrent : s.store.get changed.key = some o := by
    rw [hkey, hkeyed]
    exact hfound
  exact ⟨hkey.trans hkeyed, Store.update_of_current hcurrent hversion.symm⟩

/-- A cycle leads to what its ending says, unless a count starts over. -/
theorem leads_of_endsAs {c : Ending} (hkeyed : ∀ o, s.store.get key = some o → o.key = key)
    (hversion : s.store.version ≤ s.store.version + 1) (hupdates : s.store.updates ≤ s.store.updates + 1)
    (h : g.EndsAs key e s c) :
    c.Leads key s (g.reconcile DryRun.backend key e s).1 (g.reconcile DryRun.backend key e s).2.2 := by
  have hfinish : ∀ {o}, s.store.get key = some o →
      g.reconcile DryRun.backend key e s = g.finish DryRun.backend o s.now e s := fun hfound =>
    reconcile_eq_finish DryRun.backend e (by simp [DryRun.backend, hfound])
  cases h with
  | missing hfound =>
    have hget : DryRun.backend.get key s = (.ok none, s) := by simp [DryRun.backend, hfound]
    rw [reconcile, hget]
    exact ⟨rfl, rfl⟩
  | @failed o _ hfound hends =>
    rw [hfinish hfound, finish, hends.2]
    simp only [publishAll_eq_tell, hkeyed o hfound]
    exact ⟨rfl, rfl⟩
  | @settled o v _ hfound hends hobject =>
    rw [hfinish hfound, finish, hends.2]
    simp only [Backend.conclude, hobject, publishAll_eq_tell, hkeyed o hfound]
    exact ⟨rfl, rfl⟩
  | @refused o changed v _ cause hfound hends hobject hupdate =>
    rw [hfinish hfound, finish, hends.2]
    obtain ⟨hkey, hstore⟩ := exists_update_eq (hkeyed o hfound) hfound hends.2 hobject
    simp only [conclude_of_object s hobject, hkeyed o hfound]
    rw [hstore] at hupdate ⊢
    cases hpending : s.store.nextFailure with
    | none => simp [hpending] at hupdate
    | some failure =>
      rw [hpending] at hupdate
      obtain rfl : failure = cause := by simpa using hupdate
      exact ⟨rfl, ⟨rfl, rfl, rfl⟩, hpending, rfl, rfl, rfl⟩
  | @stored o changed written v _ hfound hends hobject hupdate =>
    rw [hfinish hfound, finish, hends.2]
    obtain ⟨hkey, hstore⟩ := exists_update_eq (hkeyed o hfound) hfound hends.2 hobject
    simp only [conclude_of_object s hobject, hkeyed o hfound]
    rw [hstore] at hupdate ⊢
    cases hpending : s.store.nextFailure with
    | some failure => simp [hpending] at hupdate
    | none =>
      rw [hpending] at hupdate
      obtain rfl : (s.store.put changed).1 = written := by simpa using hupdate
      refine ⟨rfl, ⟨changed, hobject, rfl⟩, if_pos hkey.symm, fun k hk => if_neg (hkey ▸ hk),
        Store.toNat_add_one_of_le hversion, Store.toNat_add_one_of_le hupdates, rfl, ?_, rfl⟩
      show ((s.tell key v.warnings).tell changed.key v.confirmations).events = _
      rw [hkey]

/-! ## What is told -/

theorem isWarning_of_warning? {r : FieldReport} {n : Notification} (h : r.warning? = some n) : n.isWarning = true := by
  simp [Notification.isWarning, (FieldReport.of_warning? h).1]

theorem isWarning_of_reports {fields : List String} :
    ∀ {e : Entropy} {failure : GenerationFailure}, g.reports o now fields e = .error failure →
      ∀ n ∈ failure.warnings, n.isWarning = true := by
  induction fields with
  | nil =>
    intro e failure h
    cases h
  | cons field fields ih =>
    intro e failure h n hn
    simp only [reports] at h
    split at h
    · -- The field ends the cycle, with no warnings about any before it.
      cases h
      cases hn
    · split at h
      · cases h
      · rename_i hrest
        cases h
        rcases List.mem_append.mp hn with hn | hn
        · exact isWarning_of_warning? (Option.mem_toList.mp hn)
        · exact ih hrest n hn

/-- A cycle that fails tells warnings only. -/
theorem isWarning_of_evaluate (h : g.evaluate o now e = .error failure) :
    ∀ n ∈ failure.notifications, n.isWarning = true := by
  intro n hn
  rw [evaluate] at h
  split at h
  · cases h
  · rename_i hreports
    cases h
    rcases List.mem_append.mp hn with hn | hn
    · exact isWarning_of_reports hreports n hn
    · obtain rfl := List.mem_singleton.mp hn
      rfl

/-- Messages that are no warnings tell of a write. -/
theorem exists_told_of_leads {c : Ending} {answer : Except ReconcileError ReconcileOutcome} {after : DryRun}
    (hfailed : ∀ failure, c = .failed failure → ∀ n ∈ failure.notifications, n.isWarning = true)
    (h : c.Leads key s answer after) :
    ∃ told, after.events = s.events ++ told ∧
      ∀ event ∈ told, event.2.isWarning = false →
        ∃ outcome, answer = .ok outcome ∧ outcome.updated = true ∧
          after.store.updates.toNat = s.store.updates.toNat + 1 := by
  -- Unless there is a write, there are only warnings.
  have hwarns : ∀ {messages : List Notification} {P : Prop}, (∀ n ∈ messages, n.isWarning = true) →
      ∀ event ∈ messages.map (key, ·), event.2.isWarning = false → P := by
    intro messages P hall event hevent hnot
    obtain ⟨n, hn, rfl⟩ := List.mem_map.mp hevent
    rw [hall n hn] at hnot
    cases hnot
  have hwarnings : ∀ v : Evaluation, ∀ n ∈ v.warnings, n.isWarning = true := fun v n hn => (List.mem_filter.mp hn).2
  cases c with
  | missing =>
    obtain ⟨-, rfl⟩ := h
    exact ⟨[], (List.append_nil _).symm, by simp⟩
  | failed failure =>
    obtain ⟨-, rfl⟩ := h
    exact ⟨_, rfl, hwarns (hfailed failure rfl)⟩
  | settled v =>
    obtain ⟨-, rfl⟩ := h
    exact ⟨_, rfl, hwarns (hwarnings v)⟩
  | refused v cause =>
    obtain ⟨-, -, -, -, hevents, -⟩ := h
    exact ⟨_, hevents, hwarns (hwarnings v)⟩
  | stored v written =>
    obtain ⟨hanswer, -, -, -, -, hupdates, -, hevents, -⟩ := h
    rw [hevents, DryRun.tell, DryRun.tell, List.append_assoc]
    exact ⟨_, rfl, fun _ _ _ => ⟨_, hanswer, rfl, hupdates⟩⟩

/-! ## Atomicity -/

/-- **One cycle at a store.** At a store that has come about by any accesses, with any failure asked for, any record of
messages and any clock, a cycle ends in exactly one of the five ways, tells of a success only if it has written, and gives
what it writes a new version, exactly if it does not break down. The count of versions must not have started over, and must
have place for one more. -/
theorem atomic_iff {engines : Nat → Engine} {first : Instant} {accesses : List Access}
    (hrising : Shared.Rising engines (Shared.start first) accesses)
    (hstore : (Shared.run engines (Shared.start first) accesses).place.store = s.store)
    (hplace : s.store.version ≤ s.store.version + 1) :
    g.Atomic key e s (Shared.Gave engines first accesses) ↔ g.reconcileBreaksDown DryRun.backend key s = false := by
  constructor
  · intro h
    obtain ⟨c, ⟨hends, -⟩, -⟩ := h.ends
    exact (endsAs_iff.mp hends).1
  · intro hstands
    have hsound := Shared.sound_run engines (Shared.sound_start first) hrising
    have hupdates : s.store.updates ≤ s.store.updates + 1 := by
      have hbehind := Shared.updates_le_version_run engines (UInt64.le_refl _ : (Shared.start first).place.store.updates ≤ _)
        hrising
      rw [hstore] at hbehind
      exact (Store.le_add_one_of_le hbehind hplace).1
    have hkeyed : ∀ o, s.store.get key = some o → o.key = key := by
      rw [← hstore]
      exact hsound.keyed key
    have hends : g.EndsAs key e s (g.ending key e s) := endsAs_iff.mpr ⟨hstands, rfl⟩
    have hleads := leads_of_endsAs hkeyed hplace hupdates hends
    refine ⟨⟨_, ⟨hends, hleads⟩, fun c hc => (endsAs_iff.mp hc.1).2⟩, exists_told_of_leads (fun failure hfailed => ?_) hleads,
      fun v written hstored => ?_⟩
    · rw [hfailed] at hends
      cases hends with
      | failed hfound hends => exact isWarning_of_evaluate hends.2
    · obtain ⟨-, ⟨changed, -, rfl⟩, -⟩ := leads_of_endsAs hkeyed hplace hupdates hstored
      refine ⟨_, rfl, fun version hgave => ?_⟩
      obtain ⟨n, hn, hversion⟩ := Shared.exists_of_gave hrising hgave
      rw [hstore] at hn
      exact ⟨n, UInt64.lt_of_le_of_lt hn (Store.lt_add_one_of_le hplace), hversion⟩

/-- The accesses by which an object is inserted, and the next update is to fail. -/
def insertedAndFailing (o : ManagedObject) : List Access := [.insert o, .fail (.backend "full")]

/-- The place after these accesses. -/
def failingPlace (o : ManagedObject) : DryRun :=
  (Shared.run (fun _ => ungated) (Shared.start default) (insertedAndFailing o)).place

/-- A field is filled, but the store refuses the write, and it has no more than that to do with the cycle. -/
theorem atomic_failingPlace :
    ungated.Atomic Shared.unfilled.key ⟨fun _ => 0, 0⟩ (failingPlace Shared.unfilled)
        (Shared.Gave (fun _ => ungated) default (insertedAndFailing Shared.unfilled)) ∧
      ∃ v, ungated.EndsAs Shared.unfilled.key ⟨fun _ => 0, 0⟩ (failingPlace Shared.unfilled)
        (.refused v (.backend "full")) := by
  have hatomic : ungated.Atomic Shared.unfilled.key ⟨fun _ => 0, 0⟩ (failingPlace Shared.unfilled)
      (Shared.Gave (fun _ => ungated) default (insertedAndFailing Shared.unfilled)) :=
    (atomic_iff (Shared.rising_of_length _ (by decide)) rfl (by decide)).mpr (by decide +kernel)
  refine ⟨hatomic, ?_⟩
  have hanswer : (ungated.reconcile DryRun.backend Shared.unfilled.key ⟨fun _ => 0, 0⟩
      (failingPlace Shared.unfilled)).1 = .error (.store (.backend "full")) := by
    decide +kernel
  obtain ⟨c, ⟨hends, hleads⟩, -⟩ := hatomic.ends
  rw [hanswer] at hleads
  cases c with
  | missing => cases hleads.1
  | failed failure => cases hleads.1
  | settled v => cases hleads.1
  | refused v cause =>
    cases hleads.1
    exact ⟨v, hends⟩
  | stored v written => cases hleads.1

/-- Not all cycles end in one of these ways: one in which the reader of intervals breaks down does not come to an end. -/
theorem exists_cycle_without_ending :
    ¬ ∀ (g : Engine) (key : ObjectKey) (e : Entropy) (s : DryRun) (engines : Nat → Engine) (first : Instant)
        (accesses : List Access), Shared.Rising engines (Shared.start first) accesses →
      (Shared.run engines (Shared.start first) accesses).place.store = s.store →
      s.store.version ≤ s.store.version + 1 → g.Atomic key e s (Shared.Gave engines first accesses) := by
  intro hall
  have hatomic := hall ungated overflowing.key ⟨fun _ => 0, 0⟩ (failingPlace overflowing) _ _ _
    (Shared.rising_of_length _ (by decide)) rfl (by decide)
  obtain ⟨c, ⟨hends, -⟩, -⟩ := hatomic.ends
  exact absurd (endsAs_iff.mp hends).1 (by decide +kernel)

end Engine

end SecretRotation
