import SecretRotation.Cluster.Client
import SecretRotation.Proofs.Cluster.Overlap
import SecretRotation.Proofs.Reconcile.Mirror

/-!
# Watched servers

What a run does at a server is written down, step by step, while others change the server between any two steps as they
please. A watched server answers like the server itself, so that the same cycles run against it. What they have done can then
be counted: how many manifests were stored, and how many were refused as too late.

## Main definitions

* `Site`: a server among others that use it.
* `Deed`, `Site.Step`: what a run does, with the place before and after.
* `Watched`: a place together with the steps so far, and `Site.watched`, the server that writes them down.
* `Site.Sparing`: only a manifest that is stored changes what the server holds.
* `Watched.Grew`: a part of a run, by its writes and its refused writes.
* `Watched.Account`: a part of a run with the writes and the refused writes that an answer tells of.
* `Site.alone`: a server that nobody else uses.
* `Cluster.site`: the server in memory, with others that use it.

## Main results

* `Site.Step.isWrite_of_changes`: a step that changes what is held is a write.
* `Watched.account_reconcile`: a cycle writes once if it says so, and otherwise never.
* `Site.mirrors_alone`: cycles do not notice that they are watched.
* `Cluster.sparing_site`: the server in memory is as sparing as it has to be.
-/

namespace SecretRotation

/-- A server with an ear for messages and a clock, among others that use it. -/
structure Site (σ : Type) where
  api : SecretApi σ
  publish : ManagedObject → Notification → σ → σ
  now : σ → Instant
  /-- What others do before a step of the run, by the number of that step. -/
  others : Nat → σ → σ

/-- What a run does at a server, and the answer. -/
inductive Deed where
  | get (path : String) (answer : Except ApiStatus Manifest)
  | put (path : String) (m : Manifest) (answer : Except ApiStatus Manifest)
  | tell (o : ManagedObject) (n : Notification)

namespace Deed

/-- A manifest was stored. -/
def isWrite : Deed → Bool
  | put _ _ (.ok _) => true
  | _ => false

/-- A manifest was refused as one that has changed. -/
def isConflict : Deed → Bool
  | put _ _ (.error status) => status.code == 409
  | _ => false

end Deed

namespace Site

variable {σ : Type}

/-- Something is done, and the server passes from one place to another. -/
def Does (site : Site σ) (s s' : σ) : Deed → Prop
  | .get path answer => site.api.get path s = (answer, s')
  | .put path m answer => site.api.put path m s = (answer, s')
  | .tell o n => site.publish o n s = s'

theorem does_get (site : Site σ) (path : String) (s : σ) :
    site.Does s (site.api.get path s).2 (.get path (site.api.get path s).1) :=
  rfl

theorem does_put (site : Site σ) (path : String) (m : Manifest) (s : σ) :
    site.Does s (site.api.put path m s).2 (.put path m (site.api.put path m s).1) :=
  rfl

theorem does_tell (site : Site σ) (o : ManagedObject) (n : Notification) (s : σ) :
    site.Does s (site.publish o n s) (.tell o n) :=
  rfl

/-- A step of a run at a server. -/
structure Step (site : Site σ) where
  deed : Deed
  before : σ
  after : σ
  done : site.Does before after deed

/-- A step after which the server holds something else. -/
def Step.Changes {site : Site σ} (held : σ → Holdings) (step : site.Step) : Prop := held step.before ≠ held step.after

/-- Only a manifest that is stored changes what a server holds. A request to store one that is answered with an error has
not stored it. -/
structure Sparing (site : Site σ) (held : σ → Holdings) : Prop where
  get_keeps : ∀ {path s answer s'}, site.api.get path s = (answer, s') → held s' = held s
  put_refused : ∀ {path m s status s'}, site.api.put path m s = (.error status, s') → held s' = held s
  publish_keeps : ∀ o n s, held (site.publish o n s) = held s

theorem Step.isWrite_of_changes {site : Site σ} {held : σ → Holdings} (hsite : site.Sparing held) {step : site.Step}
    (hchanges : step.Changes held) : step.deed.isWrite = true := by
  obtain ⟨deed, before, after, hdone⟩ := step
  cases deed with
  | get path answer => exact absurd (hsite.get_keeps hdone).symm hchanges
  | put path m answer =>
    cases answer with
    | ok stored => rfl
    | error status => exact absurd (hsite.put_refused hdone).symm hchanges
  | tell o n =>
    obtain rfl : site.publish o n before = after := hdone
    exact absurd (hsite.publish_keeps o n before).symm hchanges

/-- Where nothing was stored, nothing has changed. -/
theorem Step.not_changes_of_countP {site : Site σ} {held : σ → Holdings} (hsite : site.Sparing held) {steps : List site.Step}
    (hnone : steps.countP (·.deed.isWrite) = 0) : ∀ step ∈ steps, ¬ step.Changes held := fun step hstep hchanges =>
  List.countP_eq_zero.mp hnone step hstep (isWrite_of_changes hsite hchanges)

end Site

/-- A place, and the steps that a run has taken so far. -/
structure Watched {σ : Type} (site : Site σ) where
  place : σ
  steps : List site.Step

namespace Watched

variable {σ : Type} {site : Site σ}

/-- A place before a run. -/
def start (site : Site σ) (s : σ) : Watched site := ⟨s, []⟩

/-- The place as the next step of the run meets it. -/
def met (w : Watched site) : σ := site.others w.steps.length w.place

/-- The run takes a step. -/
def take (w : Watched site) (deed : Deed) (after : σ) (hdone : site.Does w.met after deed) : Watched site :=
  ⟨after, w.steps ++ [⟨deed, w.met, after, hdone⟩]⟩

/-- How many manifests were stored. -/
def writes (w : Watched site) : Nat := w.steps.countP (·.deed.isWrite)

/-- How many manifests were refused as ones that have changed. -/
def conflicts (w : Watched site) : Nat := w.steps.countP (·.deed.isConflict)

/-- Steps were added, some number of writes and some number of refused writes among them. -/
structure Grew (w w' : Watched site) (writes conflicts : Nat) : Prop where
  steps : w.steps <+: w'.steps
  writes : w'.writes = w.writes + writes
  conflicts : w'.conflicts = w.conflicts + conflicts

/-- The writes that an answer tells of. -/
def writesTold : Except ReconcileError Bool → Nat
  | .ok updated => updated.toNat
  | .error _ => 0

/-- The refused writes that an answer tells of. -/
def conflictsTold : Except ReconcileError Bool → Nat
  | .ok _ => 0
  | .error cause => cause.isConflict.toNat

/-- Steps were added, with the writes and the refused writes that an answer tells of. -/
def Account (w w' : Watched site) (answer : Except ReconcileError Bool) : Prop :=
  w.Grew w' (writesTold answer) (conflictsTold answer)

/-- What the answer to a write tells. -/
def toldOfWrite {α : Type} (answer : Except ClusterError α) : Except ReconcileError Bool :=
  (answer.mapError fun cause => .store cause.toStoreError).map fun _ => true

end Watched

namespace Site

variable {σ : Type} (site : Site σ)

/-- The server that writes down what is asked of it. -/
def watched : SecretApi (Watched site) where
  get path w := ((site.api.get path w.met).1, w.take _ _ (site.does_get path w.met))
  put path m w := ((site.api.put path m w.met).1, w.take _ _ (site.does_put path m w.met))

/-- The server that writes down what is asked of it and told to it, as a place for cycles. -/
def backend : Backend (Watched site) :=
  site.watched.backend (fun o n w => w.take _ _ (site.does_tell o n w.met)) fun w => site.now w.place

end Site

namespace Watched

variable {σ : Type} {site : Site σ} {w w' w'' : Watched site} {key : ObjectKey} {o : ManagedObject}

/-! ## Parts of a run -/

theorem Grew.refl (w : Watched site) : w.Grew w 0 0 := ⟨List.prefix_rfl, rfl, rfl⟩

theorem Grew.trans {writes conflicts writes' conflicts' : Nat} (h : w.Grew w' writes conflicts)
    (h' : w'.Grew w'' writes' conflicts') : w.Grew w'' (writes + writes') (conflicts + conflicts') where
  steps := h.steps.trans h'.steps
  writes := by rw [h'.writes, h.writes, Nat.add_assoc]
  conflicts := by rw [h'.conflicts, h.conflicts, Nat.add_assoc]

theorem Account.of_grew {answer : Except ReconcileError Bool} (h : w.Grew w' 0 0) (h' : w'.Account w'' answer) :
    w.Account w'' answer := by
  simpa only [Account, Nat.zero_add] using h.trans h'

theorem Account.grew {answer : Except ReconcileError Bool} (h : w.Account w' answer) (h' : w'.Grew w'' 0 0) :
    w.Account w'' answer :=
  Grew.trans h h'

@[simp] theorem steps_take (w : Watched site) (deed : Deed) (after : σ) (hdone : site.Does w.met after deed) :
    (w.take deed after hdone).steps = w.steps ++ [⟨deed, w.met, after, hdone⟩] :=
  rfl

theorem grew_take (w : Watched site) (deed : Deed) (after : σ) (hdone : site.Does w.met after deed) :
    w.Grew (w.take deed after hdone) deed.isWrite.toNat deed.isConflict.toNat where
  steps := List.prefix_append _ _
  writes := by cases h : deed.isWrite <;> simp [writes, h]
  conflicts := by cases h : deed.isConflict <;> simp [conflicts, h]

/-! ## Requests -/

theorem fetch_of_path {path : String} (hpath : Target.secret? key = .ok path) (w : Watched site) :
    (site.watched.fetch key w).2 = w.take _ _ (site.does_get path w.met) := by
  rw [SecretApi.fetch, hpath]
  dsimp only [Site.watched]
  split <;> rename_i h <;> exact (Prod.mk.inj h).2.symm

theorem fetch_of_error {cause : TargetError} (hpath : Target.secret? key = .error cause) (w : Watched site) :
    site.watched.fetch key w = (.error (.api cause.message), w) := by
  rw [SecretApi.fetch, hpath]

theorem grew_fetch (key : ObjectKey) (w : Watched site) : w.Grew (site.watched.fetch key w).2 0 0 := by
  cases hpath : Target.secret? key with
  | error cause =>
    rw [fetch_of_error hpath]
    exact .refl w
  | ok path =>
    rw [fetch_of_path hpath]
    exact grew_take w _ _ _

theorem grew_put {path : String} {m : Manifest} {answer : Except ApiStatus Manifest}
    (h : site.watched.put path m w = (answer, w')) :
    w.Grew w' (Deed.put path m answer).isWrite.toNat (Deed.put path m answer).isConflict.toNat := by
  cases h
  exact grew_take w _ _ _

/-- The code of a refusal decides whether it tells of a conflict. -/
theorem account_replace {m : Manifest} {answer : Except ClusterError Manifest}
    (h : site.watched.replace key m w = (answer, w')) : w.Account w' (toldOfWrite answer) := by
  rw [SecretApi.replace] at h
  cases hpath : Target.secret? key with
  | error cause =>
    rw [hpath] at h
    cases h
    exact .refl w
  | ok path =>
    rw [hpath] at h
    dsimp only at h
    cases hput : site.watched.put path m w with
    | mk told w₁ =>
      have hgrew := grew_put hput
      rw [hput] at h
      cases told with
      | ok stored =>
        cases h
        exact hgrew
      | error status =>
        cases h
        by_cases hcode : status.code = 409
        · have hrefused : w.Grew w' 0 1 := by simpa [Deed.isWrite, Deed.isConflict, hcode] using hgrew
          rw [if_pos hcode]
          exact hrefused
        · have hfailed : w.Grew w' 0 0 := by
            simpa [Deed.isWrite, Deed.isConflict, beq_eq_false_iff_ne.mpr hcode] using hgrew
          rw [if_neg hcode]
          exact hfailed

/-- An object that is written back is one write, unless nothing was written. -/
theorem account_writeBack {found : Except ClusterError (Option Manifest)}
    (hfound : ∀ cause, found = .error cause → ∃ message, cause.toStoreError = .backend message)
    {answer : Except ClusterError ManagedObject} (h : site.watched.writeBack o found w = (answer, w')) :
    w.Account w' (toldOfWrite answer) := by
  match found with
  | .error cause =>
    obtain ⟨message, hmessage⟩ := hfound cause rfl
    cases h
    show w.Grew w 0 (ReconcileError.store cause.toStoreError).isConflict.toNat
    rw [hmessage]
    exact .refl w
  | .ok none =>
    cases h
    exact .refl w
  | .ok (some m) =>
    rw [SecretApi.writeBack] at h
    cases hreplace : site.watched.replace o.key (m.apply o) w with
    | mk told w₁ =>
      have haccount := account_replace hreplace
      rw [hreplace] at h
      cases told <;> cases h <;> exact haccount

/-! ## Cycles -/

theorem get_snd (key : ObjectKey) (w : Watched site) : (site.backend.get key w).2 = (site.watched.fetch key w).2 := by
  dsimp only [Site.backend, SecretApi.backend, SecretApi.read]
  cases site.watched.fetch key w with
  | mk found w' => cases found <;> rfl

/-- A look at the object is never taken for a write that came too late. -/
theorem exists_backend_of_get {cause : StoreError} (h : site.backend.get key w = (.error cause, w')) :
    ∃ message, cause = .backend message := by
  dsimp only [Site.backend, SecretApi.backend, SecretApi.read] at h
  cases hfetch : site.watched.fetch key w with
  | mk found w₁ =>
    rw [hfetch] at h
    cases found with
    | error refused =>
      cases h
      exact SecretApi.exists_backend_of_fetch hfetch
    | ok m => cases h

theorem account_update {answer : Except StoreError ManagedObject} (h : site.backend.update o w = (answer, w')) :
    w.Account w' ((answer.mapError .store).map fun _ => true) := by
  cases hfetch : site.watched.fetch o.key w with
  | mk found w₁ =>
    cases hwrite : site.watched.writeBack o found w₁ with
    | mk told w₂ =>
      have hupdate : site.backend.update o w = (told.mapError ClusterError.toStoreError, w₂) := by
        dsimp only [Site.backend, SecretApi.backend, SecretApi.update]
        rw [hfetch]
        dsimp only
        rw [hwrite]
      have hgrew : w.Grew w₁ 0 0 := by simpa only [hfetch] using grew_fetch o.key w
      obtain ⟨rfl, rfl⟩ := Prod.mk.inj (hupdate.symm.trans h)
      refine .of_grew hgrew ?_
      have haccount := account_writeBack (fun cause hcause => SecretApi.exists_backend_of_fetch (hcause ▸ hfetch)) hwrite
      cases told <;> exact haccount

theorem grew_publishAll (o : ManagedObject) (messages : List Notification) (w : Watched site) :
    w.Grew (site.backend.publishAll o messages w) 0 0 := by
  induction messages generalizing w with
  | nil => exact .refl w
  | cons message messages ih =>
    have htold := grew_take w _ _ (site.does_tell o message w.met)
    exact htold.trans (ih _)

theorem account_conclude {v : Evaluation} {answer : Except StoreError Bool}
    (h : site.backend.conclude o v w = (answer, w')) : w.Account w' (answer.mapError .store) := by
  rw [Backend.conclude] at h
  refine .of_grew (grew_publishAll o (v.notifications.filter Notification.isWarning) w) ?_
  split at h
  · cases h
    exact .refl _
  · rename_i changed
    split at h
    · rename_i stored w₁ hupdate
      cases h
      exact (account_update hupdate).grew (grew_publishAll stored _ w₁)
    · rename_i cause w₁ hupdate
      cases h
      exact account_update hupdate

/-- What a cycle does after it has looked at the object. -/
theorem account_reconcile {g : Engine} {e rest : Entropy} {answer : Except ReconcileError ReconcileOutcome}
    (h : g.reconcile site.backend key e w = (answer, rest, w')) :
    (site.backend.get key w).2.Account w' (answer.map ReconcileOutcome.updated) := by
  rw [Engine.reconcile] at h
  cases hget : site.backend.get key w with
  | mk found w₁ =>
    rw [hget] at h
    rcases found with cause | _ | o
    · obtain ⟨message, rfl⟩ := exists_backend_of_get hget
      cases h
      exact .refl _
    · cases h
      exact .refl _
    · dsimp only at h
      split at h
      · cases h
        exact grew_publishAll o _ w₁
      · split at h <;> rename_i hconclude <;> cases h <;> exact account_conclude hconclude

end Watched

/-! ## Watching changes nothing -/

namespace Site

variable {σ : Type} {api : SecretApi σ} {publish : ManagedObject → Notification → σ → σ} {now : σ → Instant}

/-- A server that nobody else uses. -/
def alone (api : SecretApi σ) (publish : ManagedObject → Notification → σ → σ) (now : σ → Instant) : Site σ :=
  ⟨api, publish, now, fun _ s => s⟩

theorem fetch_alone (key : ObjectKey) (w : Watched (alone api publish now)) :
    api.fetch key w.place = ((alone api publish now).watched.fetch key w).map id Watched.place := by
  rw [SecretApi.fetch, SecretApi.fetch]
  cases Target.secret? key with
  | error cause => rfl
  | ok path =>
    have hget : api.get path w.place = ((alone api publish now).watched.get path w).map id Watched.place := rfl
    simp only [hget]
    cases (alone api publish now).watched.get path w with
    | mk answer w => cases answer <;> rfl

theorem replace_alone (key : ObjectKey) (m : Manifest) (w : Watched (alone api publish now)) :
    api.replace key m w.place = ((alone api publish now).watched.replace key m w).map id Watched.place := by
  rw [SecretApi.replace, SecretApi.replace]
  cases Target.secret? key with
  | error cause => rfl
  | ok path =>
    have hput : api.put path m w.place = ((alone api publish now).watched.put path m w).map id Watched.place := rfl
    simp only [hput]
    cases (alone api publish now).watched.put path m w with
    | mk answer w => cases answer <;> rfl

theorem writeBack_alone (o : ManagedObject) (found : Except ClusterError (Option Manifest))
    (w : Watched (alone api publish now)) :
    api.writeBack o found w.place = ((alone api publish now).watched.writeBack o found w).map id Watched.place := by
  match found with
  | .error cause => rfl
  | .ok none => rfl
  | .ok (some m) =>
    rw [SecretApi.writeBack, SecretApi.writeBack]
    simp only [replace_alone]
    cases (alone api publish now).watched.replace o.key (m.apply o) w with
    | mk answer w => cases answer <;> rfl

theorem mirrors_alone : (api.backend publish now).Mirrors (alone api publish now).backend Watched.place where
  get key w := by
    dsimp only [backend, SecretApi.backend, SecretApi.read]
    rw [fetch_alone]
    cases (alone api publish now).watched.fetch key w with
    | mk found w => cases found <;> rfl
  update o w := by
    dsimp only [backend, SecretApi.backend, SecretApi.update]
    rw [fetch_alone]
    cases (alone api publish now).watched.fetch o.key w with
    | mk found w => exact congrArg (Prod.map (Except.mapError ClusterError.toStoreError) id) (writeBack_alone o found w)
  publish _ _ _ := rfl
  now _ := rfl

end Site

/-! ## The server in memory -/

namespace Cluster

/-- The server in memory, with others that use it. -/
def site (report : Bool) (others : Nat → Cluster → Cluster) : Site Cluster :=
  ⟨api, (backend report).publish, (backend report).now, others⟩

theorem held_publish (c : Cluster) (o : ManagedObject) (n : Notification) : (c.publish o n).held = c.held := by
  funext other
  rw [publish]
  split
  · rfl
  · rename_i path hpath
    split <;> rename_i server hrecord
    all_goals
      have hsecrets : server.secrets = c.server.secrets :=
        congrArg (fun recorded => recorded.2.secrets) hrecord ▸ Server.secrets_receive c.server (.event path _)
      exact congrArg (·[other]?) hsecrets

theorem sparing_site (report : Bool) (others : Nat → Cluster → Cluster) : (site report others).Sparing held where
  get_keeps := lawful_api.get_keeps
  put_refused := lawful_api.put_refused
  publish_keeps o n c := by
    show held (if report then c.publish o n else c) = held c
    split
    · exact held_publish c o n
    · rfl

end Cluster

end SecretRotation
