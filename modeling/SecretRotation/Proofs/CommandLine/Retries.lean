import Mathlib.Data.List.Forall2
import SecretRotation.CommandLine.Run
import SecretRotation.Proofs.Cluster.Watched

/-!
# Cycles that are tried again

The command tries a cycle again when its write was refused because the object had changed in between. Each cycle starts from
a fresh look at the object. Whatever the server answers and whatever others write meanwhile, there are three cycles at most,
and no cycle follows one that has stored anything.

## Main definitions

* `CycleRun`, `Engine.Cycles`: a cycle that was run, and cycles that follow one another.
* `CycleRun.RanIntoConflict`: the cycle failed, and another look at the object may help.
* `CycleRun.BeginsWithLook`: the cycle looks at the object before all else.
* `ReconcileOutcome.ToldBy`: lines tell of a cycle.
* `Retried`: what becomes of the cycles of a command.

## Main results

* `Engine.exists_cycles_of_reconcileWithRetries`: only cycles that ran into conflicts come before the last one.
* `Engine.Runs.ranIntoConflict_iff`: a cycle runs into a conflict exactly if a manifest was refused as one that has changed.
* `Engine.reconcileCommand_retried`: at most three cycles, and only the last one may write.
* `Invocation.runReconcile_of_cluster`: the command runs as it does when it is watched.
-/

namespace SecretRotation

/-- A cycle that was run: the place before it, its answer unless it broke down, and the place after it. -/
structure CycleRun (σ : Type) where
  before : σ
  answer : Option (Except ReconcileError ReconcileOutcome)
  after : σ

namespace CycleRun

variable {σ : Type}

/-- The cycle failed, and another look at the object may help. -/
def RanIntoConflict (c : CycleRun σ) : Prop := ∃ cause, c.answer = some (.error cause) ∧ cause.isConflict = true

/-- Whether the cycle says that it has written, or why it failed. One that broke down says nothing of a write. -/
def told (c : CycleRun σ) : Except ReconcileError Bool := c.answer.elim (.ok false) (·.map ReconcileOutcome.updated)

end CycleRun

namespace Engine

variable {σ : Type} {g : Engine} {b : Backend σ} {key : ObjectKey}

/-- Cycles over the object under a key, each in the place and with the entropy that the one before has left. -/
inductive Cycles (g : Engine) (b : Backend σ) (key : ObjectKey) : Entropy → σ → List (CycleRun σ) → Entropy → σ → Prop
  | nil {e s} : Cycles g b key e s [] e s
  | cons {e rest e' s after s' answer cycles} (hcycle : g.tryCycle b key e s = (answer, rest, after))
      (hcycles : Cycles g b key rest after cycles e' s') : Cycles g b key e s (⟨s, answer, after⟩ :: cycles) e' s'

/-- A cycle breaks down after its look at the object, or it is run to its end. -/
theorem tryCycle_cases {e rest : Entropy} {s s' : σ} {answer : Option (Except ReconcileError ReconcileOutcome)}
    (h : g.tryCycle b key e s = (answer, rest, s')) :
    answer = none ∧ s' = (b.get key s).2 ∨ ∃ told, answer = some told ∧ g.reconcile b key e s = (told, rest, s') := by
  rw [tryCycle] at h
  split at h
  · cases h
    exact .inl ⟨rfl, rfl⟩
  · cases h
    exact .inr ⟨_, rfl, rfl⟩

/-- A cycle that cannot look at the object ends there. -/
theorem tryCycle_of_unread (g : Engine) {e : Entropy} {s s' : σ} {cause : StoreError}
    (hget : b.get key s = (.error cause, s')) : g.tryCycle b key e s = (some (.error (.store cause)), e, s') := by
  rw [tryCycle, reconcileBreaksDown, reconcile, hget]
  rfl

/-- A cycle is one over the object under a key. -/
def Runs (g : Engine) (b : Backend σ) (key : ObjectKey) (c : CycleRun σ) : Prop :=
  ∃ e rest, g.tryCycle b key e c.before = (c.answer, rest, c.after)

theorem Cycles.runs_of_mem {e e' : Entropy} {s s' : σ} {cycles : List (CycleRun σ)} (h : g.Cycles b key e s cycles e' s')
    {c : CycleRun σ} (hc : c ∈ cycles) : g.Runs b key c := by
  induction h with
  | nil => cases hc
  | cons hcycle hcycles ih =>
    rcases List.mem_cons.mp hc with rfl | hc
    · exact ⟨_, _, hcycle⟩
    · exact ih hc

/-- Cycles are tried again only after conflicts, and as long as they run into them, up to the last try. -/
theorem exists_cycles_of_reconcileWithRetries {retries : Nat} {e rest : Entropy} {s after : σ}
    {answer : Option (Except ReconcileError ReconcileOutcome)}
    (h : g.reconcileWithRetries b key retries e s = (answer, rest, after)) :
    ∃ earlier last, g.Cycles b key e s (earlier ++ [last]) rest after ∧ last.answer = answer ∧
      earlier.length ≤ retries ∧ (∀ c ∈ earlier, c.RanIntoConflict) ∧ (last.RanIntoConflict → earlier.length = retries) := by
  induction retries generalizing e s with
  | zero => exact ⟨[], ⟨s, answer, after⟩, .cons h .nil, rfl, Nat.le_refl 0, by simp, fun _ => rfl⟩
  | succ retries ih =>
    rw [reconcileWithRetries] at h
    cases hcycle : g.tryCycle b key e s with
    | mk told left =>
      obtain ⟨e₁, s₁⟩ := left
      rw [hcycle] at h
      by_cases hconflict : ∃ cause, told = some (.error cause) ∧ cause.isConflict = true
      · obtain ⟨cause, rfl, hcause⟩ := hconflict
        simp only [hcause, if_true] at h
        obtain ⟨earlier, last, hcycles, hlast, hfew, hretried, hexhausted⟩ := ih h
        refine ⟨⟨s, some (.error cause), s₁⟩ :: earlier, last, .cons hcycle hcycles, hlast, Nat.succ_le_succ hfew, ?_,
          fun hconflict => congrArg Nat.succ (hexhausted hconflict)⟩
        exact List.forall_mem_cons.mpr ⟨⟨cause, rfl, hcause⟩, hretried⟩
      · -- Every other answer ends the run.
        have hdone : (told, e₁, s₁) = (answer, rest, after) := by
          rcases told with _ | cause | outcome
          · exact h
          · have hcause : ¬ cause.isConflict = true := fun hcause => hconflict ⟨cause, rfl, hcause⟩
            simpa only [if_neg hcause] using h
          · exact h
        cases hdone
        exact ⟨[], ⟨s, answer, after⟩, .cons hcycle .nil, rfl, Nat.zero_le _, by simp, fun h => absurd h hconflict⟩

end Engine

/-! ## Watched cycles -/

namespace CycleRun

variable {σ : Type} {site : Site σ}

/-- The steps that were taken in the cycle. -/
def steps (c : CycleRun (Watched site)) : List site.Step := c.after.steps.drop c.before.steps.length

/-- The cycle looks at the object before all else. If no request can be made for it, nothing is done. -/
def BeginsWithLook (c : CycleRun (Watched site)) (key : ObjectKey) : Prop :=
  match Target.secret? key with
  | .ok path => ∃ answer, c.steps.head?.map (·.deed) = some (.get path answer)
  | .error _ => c.steps = []

end CycleRun

/-- The line about a field begins with its name. If something was wrong, it ends with the complaint. -/
def FieldOutcome.ToldBy (f : FieldOutcome) (line : String) : Prop :=
  f.field.toList <+: line.toList ∧ ∀ cause ∈ f.error, cause.message.toList <:+ line.toList

/-- Lines tell of a cycle: one of each field, in order, then one of the write and one of the delay. -/
structure ReconcileOutcome.ToldBy (outcome : ReconcileOutcome) (lines : List String) : Prop where
  fields : List.Forall₂ FieldOutcome.ToldBy outcome.fields (lines.take outcome.fields.length)
  rest : lines.drop outcome.fields.length =
    [if outcome.updated then "updated: true" else "updated: false",
      match outcome.requeueAfter with
      | some delay => "requeue after: " ++ delay.format
      | none => "requeue after: never"]

/-- What becomes of the cycles of a command, the last one and those before it. -/
structure Retried {σ : Type} {site : Site σ} (held : σ → Holdings) (key : ObjectKey)
    (earlier : List (CycleRun (Watched site))) (last : CycleRun (Watched site)) (result : Except Failure (List String))
    (after : Watched site) : Prop where
  few : earlier.length ≤ 2
  /-- Another cycle is only run after a conflict. -/
  again : ∀ c ∈ earlier, c.RanIntoConflict
  /-- Only the third conflict is one too many. -/
  exhausted : last.RanIntoConflict → earlier.length = 2
  looks : ∀ c ∈ earlier ++ [last], c.BeginsWithLook key
  conflicts : ∀ c ∈ earlier ++ [last], c.RanIntoConflict ↔ ∃ step ∈ c.steps, step.deed.isConflict = true
  /-- All steps are those of the cycles. -/
  whole : after.steps = (earlier ++ [last]).flatMap CycleRun.steps
  spares : ∀ c ∈ earlier, ∀ step ∈ c.steps, ¬ step.Changes held
  ends : result = reconcileResult key last.answer
  failed : ∀ failure, result = .error failure → ∀ step ∈ after.steps, ¬ step.Changes held
  /-- What is printed is the outcome of the last cycle, and the write that it tells of is the only one. -/
  printed : ∀ lines, result = .ok lines → ∃ outcome, last.answer = some (.ok outcome) ∧ lines = outcome.summary ∧
    outcome.ToldBy lines ∧ last.steps.countP (·.deed.isWrite) = outcome.updated.toNat ∧
    after.steps.countP (·.deed.isWrite) = outcome.updated.toNat ∧
    (outcome.updated = false → ∀ step ∈ after.steps, ¬ step.Changes held)

namespace Engine.Runs

variable {σ : Type} {site : Site σ} {key : ObjectKey} {g : Engine} {c : CycleRun (Watched site)}

open Watched (writesTold conflictsTold)

variable (h : g.Runs site.backend key c)

include h

/-- What the cycle does after it has looked at the object. -/
theorem account_of_get : (site.backend.get key c.before).2.Account c.after c.told := by
  obtain ⟨e, rest, hcycle⟩ := h
  rcases tryCycle_cases hcycle with ⟨hanswer, hafter⟩ | ⟨answer, hanswer, hreconcile⟩
  · rw [CycleRun.told, hanswer, hafter]
    exact .refl _
  · rw [CycleRun.told, hanswer]
    exact Watched.account_reconcile hreconcile

theorem account : c.before.Account c.after c.told := by
  refine .of_grew ?_ h.account_of_get
  rw [Watched.get_snd]
  exact Watched.grew_fetch key c.before

theorem steps_eq : c.after.steps = c.before.steps ++ c.steps := by
  obtain ⟨new, hnew⟩ := h.account.steps
  rw [CycleRun.steps, ← hnew, List.drop_left]

theorem countP_isWrite : c.steps.countP (·.deed.isWrite) = writesTold c.told := by
  have hwrites := h.account.writes
  rw [Watched.writes, Watched.writes, h.steps_eq, List.countP_append] at hwrites
  exact Nat.add_left_cancel hwrites

theorem countP_isConflict : c.steps.countP (·.deed.isConflict) = conflictsTold c.told := by
  have hconflicts := h.account.conflicts
  rw [Watched.conflicts, Watched.conflicts, h.steps_eq, List.countP_append] at hconflicts
  exact Nat.add_left_cancel hconflicts

/-- Every cycle starts from a fresh look at the object. -/
theorem beginsWithLook : c.BeginsWithLook key := by
  have hprefix := h.account_of_get.steps
  rw [Watched.get_snd] at hprefix
  rw [CycleRun.BeginsWithLook]
  cases hpath : Target.secret? key with
  | error cause =>
    obtain ⟨e, rest, hcycle⟩ := h
    have hget : site.backend.get key c.before = (.error (.backend (ClusterError.api cause.message).message), c.before) := by
      dsimp only [Site.backend, SecretApi.backend, SecretApi.read]
      rw [Watched.fetch_of_error hpath]
      rfl
    rw [g.tryCycle_of_unread hget] at hcycle
    have hafter : c.before = c.after := congrArg (fun cycle => cycle.2.2) hcycle
    simp only [CycleRun.steps, ← hafter, List.drop_length]
  | ok path =>
    rw [Watched.fetch_of_path hpath] at hprefix
    obtain ⟨rest, hrest⟩ := hprefix
    refine ⟨(site.api.get path c.before.met).1, ?_⟩
    rw [CycleRun.steps, ← hrest, Watched.steps_take, List.append_assoc, List.drop_left]
    rfl

/-- A cycle runs into a conflict exactly if a manifest was refused in it as one that has changed. -/
theorem ranIntoConflict_iff : c.RanIntoConflict ↔ ∃ step ∈ c.steps, step.deed.isConflict = true := by
  rw [← List.countP_pos_iff, h.countP_isConflict, CycleRun.RanIntoConflict, CycleRun.told]
  match c.answer with
  | none => simp [conflictsTold]
  | some (.ok outcome) => simp [conflictsTold, Except.map]
  | some (.error cause) => cases hcause : cause.isConflict <;> simp [conflictsTold, Except.map, hcause]

end Engine.Runs

/-! ## Cycles of a command -/

theorem FieldOutcome.toldBy_detail (f : FieldOutcome) : f.ToldBy (padRight 24 f.field ++ " " ++ f.detail) := by
  refine ⟨?_, fun cause hcause => ?_⟩
  · rw [String.toList_append, String.toList_append, padRight, String.toList_append, List.append_assoc, List.append_assoc]
    exact List.prefix_append _ _
  · -- The complaint stands at the end of the detail, and the detail at the end of the line.
    have hdetail : f.detail = "failed: " ++ cause.message := by
      rw [detail, Option.mem_def.mp hcause]
      rfl
    rw [hdetail, String.toList_append, @String.toList_append "failed: "]
    exact (List.suffix_append _ _).trans (List.suffix_append _ _)

theorem ReconcileOutcome.toldBy_summary (outcome : ReconcileOutcome) : outcome.ToldBy outcome.summary := by
  have hlength : (outcome.fields.map fun f => padRight 24 f.field ++ " " ++ f.detail).length = outcome.fields.length :=
    List.length_map _
  refine ⟨?_, ?_⟩
  · rw [summary, ← hlength, List.take_left, List.forall₂_map_right_iff]
    exact List.forall₂_same.mpr fun f _ => f.toldBy_detail
  · rw [summary, ← hlength, List.drop_left]
    cases outcome.updated <;> cases outcome.requeueAfter <;> rfl

namespace CycleRun

variable {σ : Type} {key : ObjectKey} {c : CycleRun σ}

theorem RanIntoConflict.writesTold_eq (h : c.RanIntoConflict) : Watched.writesTold c.told = 0 := by
  obtain ⟨cause, hanswer, -⟩ := h
  rw [told, hanswer]
  rfl

/-- A cycle that is complained about tells of no write. -/
theorem writesTold_of_failure {failure : Failure} (h : reconcileResult key c.answer = .error failure) :
    Watched.writesTold c.told = 0 := by
  rw [told]
  match hanswer : c.answer with
  | none => rfl
  | some (.error cause) => rfl
  | some (.ok outcome) =>
    rw [hanswer] at h
    cases h

theorem exists_of_printed {lines : List String} (h : reconcileResult key c.answer = .ok lines) :
    ∃ outcome, c.answer = some (.ok outcome) ∧ lines = outcome.summary ∧
      Watched.writesTold c.told = outcome.updated.toNat := by
  rw [told]
  match hanswer : c.answer with
  | some (.ok outcome) =>
    rw [hanswer] at h
    cases h
    exact ⟨outcome, rfl, rfl, rfl⟩
  | some (.error cause) =>
    rw [hanswer] at h
    cases h
  | none =>
    rw [hanswer] at h
    cases h

end CycleRun

namespace Engine

variable {σ : Type} {site : Site σ} {held : σ → Holdings} {g : Engine} {key : ObjectKey}

theorem Cycles.steps_eq {e e' : Entropy} {w w' : Watched site} {cycles : List (CycleRun (Watched site))}
    (h : g.Cycles site.backend key e w cycles e' w') : w'.steps = w.steps ++ cycles.flatMap CycleRun.steps := by
  induction h with
  | nil => simp
  | @cons e rest e' w after w' answer cycles hcycle hcycles ih =>
    have hsteps := Runs.steps_eq (c := ⟨w, answer, after⟩) ⟨e, rest, hcycle⟩
    rw [ih, hsteps, List.flatMap_cons, List.append_assoc]

/-- Of cycles that are tried again, only the last one can have written. -/
theorem Cycles.writes_eq_of_last {e e' : Entropy} {s : σ} {w : Watched site} {earlier : List (CycleRun (Watched site))}
    {last : CycleRun (Watched site)} (h : g.Cycles site.backend key e (.start site s) (earlier ++ [last]) e' w)
    (hagain : ∀ c ∈ earlier, c.RanIntoConflict) : w.writes = Watched.writesTold last.told := by
  have hruns : ∀ c ∈ earlier ++ [last], g.Runs site.backend key c := fun c hc => h.runs_of_mem hc
  have hearlier : (earlier.flatMap CycleRun.steps).countP (·.deed.isWrite) = 0 := by
    refine List.countP_eq_zero.mpr fun step hstep => ?_
    obtain ⟨c, hc, hmem⟩ := List.mem_flatMap.mp hstep
    have hnone := (hruns c (List.mem_append_left _ hc)).countP_isWrite.trans (hagain c hc).writesTold_eq
    exact List.countP_eq_zero.mp hnone step hmem
  have hlast := (hruns last (List.mem_append_right _ List.mem_cons_self)).countP_isWrite
  rw [Watched.writes, h.steps_eq, Watched.start, List.nil_append, List.flatMap_append, List.countP_append, hearlier,
    List.flatMap_singleton, hlast, Nat.zero_add]

/-- **Conflicts are tried again, and writes never.** A command runs one to three cycles at a server that may answer anything,
while others change anything between its requests, as long as the server stores nothing that it refuses. Another cycle is run
only after one that has failed because a manifest was refused as one that has changed, and each begins with a look at the
object. No cycle but the last one changes what the server holds, and no cycle does if the command fails. If it succeeds, it
prints the outcome of the last cycle, and if that tells of a write, it is the only one. -/
theorem reconcileCommand_retried (hsite : site.Sparing held) {e : Entropy} {s : σ} {result : Except Failure (List String)}
    {after : Watched site} (hcommand : g.reconcileCommand site.backend key e (.start site s) = (result, after)) :
    ∃ earlier last rest, g.Cycles site.backend key e (.start site s) (earlier ++ [last]) rest after ∧
      Retried held key earlier last result after := by
  cases hrun : g.reconcileWithRetries site.backend key conflictRetries e (.start site s) with
  | mk answer left =>
    obtain ⟨rest, after⟩ := left
    rw [reconcileCommand, hrun] at hcommand
    cases hcommand
    obtain ⟨earlier, last, hcycles, rfl, hfew, hagain, hexhausted⟩ := exists_cycles_of_reconcileWithRetries hrun
    have hruns : ∀ c ∈ earlier ++ [last], g.Runs site.backend key c := fun c hc => hcycles.runs_of_mem hc
    have hwrites := hcycles.writes_eq_of_last hagain
    have hlast := (hruns last (List.mem_append_right _ List.mem_cons_self)).countP_isWrite
    have hnone (htold : Watched.writesTold last.told = 0) : ∀ step ∈ after.steps, ¬ step.Changes held :=
      Site.Step.not_changes_of_countP hsite (hwrites.trans htold)
    refine ⟨earlier, last, rest, hcycles, {
      few := hfew
      again := hagain
      exhausted := hexhausted
      looks := fun c hc => (hruns c hc).beginsWithLook
      conflicts := fun c hc => (hruns c hc).ranIntoConflict_iff
      whole := by rw [hcycles.steps_eq, Watched.start, List.nil_append]
      spares := fun c hc => Site.Step.not_changes_of_countP hsite <|
        (hruns c (List.mem_append_left _ hc)).countP_isWrite.trans (hagain c hc).writesTold_eq
      ends := rfl
      failed := fun failure hfailure => hnone (CycleRun.writesTold_of_failure hfailure)
      printed := fun lines hlines => ?_ }⟩
    obtain ⟨outcome, hanswer, hsummary, htold⟩ := CycleRun.exists_of_printed hlines
    refine ⟨outcome, hanswer, hsummary, hsummary ▸ outcome.toldBy_summary, hlast.trans htold, hwrites.trans htold, fun hupdated => hnone ?_⟩
    rw [htold, hupdated]
    rfl

open SecretApi (labelled single)

/-- Someone moves a secret to production after its manifest was fetched to be written. -/
def overtaken : Site Cluster :=
  Cluster.site true fun n c => if n = 2 then single (labelled "8" "production") c.server.log else c

/-- The password is not written then, and a second cycle writes it over the secret as it was moved. -/
theorem reconcileCommand_retried_overtaken :
    ∃ (earlier : List (CycleRun (Watched overtaken))) (last : CycleRun (Watched overtaken)) (lines : List String)
      (after : Watched overtaken),
      Engine.builtIn.reconcileCommand overtaken.backend (labelled "7" "test").key ⟨fun _ => 0, 0⟩
        (.start overtaken (single (labelled "7" "test") [])) = (.ok lines, after) ∧
      Retried Cluster.held (labelled "7" "test").key earlier last (.ok lines) after ∧ earlier ≠ [] ∧
      last.steps.countP (·.deed.isWrite) = 1 := by
  have hsite : overtaken.Sparing Cluster.held := Cluster.sparing_site true _
  have hok : ∃ done, Engine.builtIn.reconcileCommand overtaken.backend (labelled "7" "test").key ⟨fun _ => 0, 0⟩
      (.start overtaken (single (labelled "7" "test") [])) = done ∧
      done.1.isOk = true ∧ done.2.writes = 1 ∧ done.2.conflicts = 1 := ⟨_, rfl, by decide +kernel⟩
  obtain ⟨⟨result, after⟩, hcommand, hresult, hwrites, hconflicts⟩ := hok
  obtain ⟨earlier, last, rest, -, hretried⟩ := reconcileCommand_retried hsite hcommand
  cases result with
  | error failure => cases hresult
  | ok lines =>
    refine ⟨earlier, last, lines, after, hcommand, hretried, ?_, ?_⟩
    · rintro rfl
      -- The refused write would be one of the last cycle, and that would not be the first.
      obtain ⟨step, hmem, hconflict⟩ := List.countP_pos_iff.mp (Nat.lt_of_lt_of_eq Nat.one_pos hconflicts.symm)
      rw [hretried.whole] at hmem
      obtain ⟨c, hc, hstep⟩ := List.mem_flatMap.mp hmem
      obtain rfl := List.mem_singleton.mp hc
      have hlast := (hretried.conflicts c hc).mpr ⟨step, hstep, hconflict⟩
      exact absurd (hretried.exhausted hlast) (by decide)
    · obtain ⟨outcome, -, -, -, hlast, hall, -⟩ := hretried.printed lines rfl
      exact hlast.trans (hall.symm.trans hwrites)

end Engine

/-! ## The command itself -/

theorem Backend.Mirrors.reconcileCommand {σ τ : Type} {b' : Backend τ} {b : Backend σ} {view : σ → τ}
    (h : b'.Mirrors b view) (g : Engine) (key : ObjectKey) (e : Entropy) (s : σ) :
    g.reconcileCommand b' key e (view s) = (g.reconcileCommand b key e s).map id view := by
  rw [Engine.reconcileCommand, Engine.reconcileCommand, h.reconcileWithRetries]
  rfl

/-- The command runs as it does when it is watched and nobody else uses the server. -/
theorem Invocation.runReconcile_of_cluster {host : Host} {cluster : Cluster} (hcluster : host.cluster = .ok cluster)
    (s : Settings) (config : EngineConfig) (key : ObjectKey) (report : Bool) :
    runReconcile host s config key report =
      let (result, after) := Engine.reconcileCommand ⟨config, ⟨s.defaults.charset, host.keys⟩⟩
        (Cluster.site report fun _ c => c).backend key host.entropy (.start _ cluster)
      ⟨result, .ok after.place⟩ := by
  have hmirrors : (Cluster.backend report).Mirrors (Cluster.site report fun _ c => c).backend Watched.place :=
    Site.mirrors_alone
  have hsame := hmirrors.reconcileCommand ⟨config, ⟨s.defaults.charset, host.keys⟩⟩ key host.entropy (.start _ cluster)
  rw [runReconcile, hcluster]
  exact congrArg (fun ran : _ × Cluster => Report.mk ran.1 (.ok ran.2)) hsame

end SecretRotation
