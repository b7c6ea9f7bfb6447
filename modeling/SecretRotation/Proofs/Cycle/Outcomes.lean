import SecretRotation.Proofs.Cycle.Foreseen
import SecretRotation.Proofs.Cycle.Wake

/-!
# What the outcomes of a cycle tell

A cycle that goes through has an outcome for each listed field, in order. What it says to those who watch the object, and
when it wants to run again, follows from these outcomes and from the intervals of the fields.

## Main definitions

* `FieldOutcome.warning?`: the warning about a field, as its outcome tells.
* `Engine.ToldByOutcomes`: all that a cycle gives out besides an object, told by its outcomes.

## Main results

* `FieldOutcome.isSome_warning?_iff`: refused intervals and failed replacements are warned of, and nothing else.
* `Engine.Reported.isWritten_of_generate`: a field that is to be filled for the first time is, if the cycle goes through.
* `Engine.toldByOutcomes_of_evaluate`: the outcomes tell all that a cycle gives out.
-/

namespace SecretRotation

/-! ## Warnings -/

/-- The warning about a field, as its outcome tells: its replacement failed, or its interval was refused. -/
def FieldOutcome.warning? (f : FieldOutcome) : Option Notification :=
  match f.decision with
  | .rotate =>
    f.error.map fun cause =>
      ⟨.warning, .rotationFailed, "Failed to rotate value for field " ++ Text.quoted f.field ++ ": " ++ cause.message⟩
  | .belowMinimum interval minimum =>
    some ⟨.warning, .rotationFailed,
      "Rotation interval " ++ interval.format ++ " for field " ++ Text.quoted f.field ++ " is below minimum " ++
        minimum.format⟩
  | _ => none

theorem FieldReport.warning?_eq (r : FieldReport) : r.warning? = r.outcome.warning? := by
  obtain ⟨spec, decision, result⟩ := r
  cases decision <;> rfl

theorem FieldReport.filterMap_warning?_eq (reports : List FieldReport) :
    reports.filterMap FieldReport.warning? = (reports.map FieldReport.outcome).filterMap FieldOutcome.warning? := by
  rw [List.filterMap_map]
  exact congrArg (List.filterMap · reports) (funext FieldReport.warning?_eq)

theorem FieldOutcome.isSome_warning?_iff (f : FieldOutcome) :
    f.warning?.isSome = true ↔
      (∃ interval minimum, f.decision = .belowMinimum interval minimum) ∨ f.decision = .rotate ∧ f.error ≠ none := by
  rw [warning?]
  cases f.decision with
  | rotate => simp [Option.isSome_iff_ne_none]
  | _ => simp

namespace Engine

variable {g : Engine} {o : ManagedObject} {now : Instant} {e rest : Entropy} {v : Evaluation} {r : FieldReport}
  {reports : List FieldReport}

/-! ## Reports of a cycle that goes through -/

namespace Reported

/-- A cycle that goes through has filled all fields that were to be filled for the first time. -/
theorem isWritten_of_generate (hr : g.Reported o now r) (h : r.decision = .generate) : r.isWritten = true := by
  have hfatal := hr.fatal
  rw [FieldReport.fatal?, h] at hfatal
  exact hr.isWritten_iff.mpr ⟨by rw [FieldReport.outcome, h]; rfl, hfatal⟩

theorem isWritten_iff_of_rotate (hr : g.Reported o now r) (h : r.decision = .rotate) :
    r.isWritten = true ↔ r.outcome.error = none := by
  rw [hr.isWritten_iff, FieldOutcome.GotMaterial, FieldOutcome.decision, FieldReport.outcome, h]
  exact and_iff_right rfl

/-- Only the failure of a replacement is told by an outcome. -/
theorem decision_eq_rotate_of_error (hr : g.Reported o now r) (h : r.outcome.error ≠ none) : r.decision = .rotate := by
  cases hmaterial : r.decision.producesMaterial with
  | false =>
    rw [FieldReport.outcome, FieldReport.cause?, hr.untouched hmaterial] at h
    exact absurd rfl h
  | true =>
    refine (Decision.eq_generate_or_rotate hmaterial).resolve_left fun hgenerate => h ?_
    exact (hr.isWritten_iff.mp (hr.isWritten_of_generate hgenerate)).2

end Reported

/-- The success messages follow from the outcomes. -/
theorem successes_eq (hreported : ∀ r ∈ reports, g.Reported o now r) (announce : Bool) :
    Evaluation.successes announce reports =
      (if ∃ f ∈ reports.map FieldReport.outcome, f.decision = .generate then [Evaluation.generated] else []) ++
        if announce = true ∧ ∃ f ∈ reports.map FieldReport.outcome, f.decision = .rotate ∧ f.error = none then
          [Evaluation.rotated]
        else [] := by
  have hgenerated : (reports.any fun r => r.isWritten && r.decision = .generate) = true ↔
      ∃ f ∈ reports.map FieldReport.outcome, f.decision = .generate := by
    simp only [List.any_eq_true, Bool.and_eq_true, decide_eq_true_eq, List.mem_map, exists_exists_and_eq_and]
    refine exists_congr fun r => and_congr_right fun hr => and_iff_right_of_imp fun hdecision => ?_
    exact (hreported r hr).isWritten_of_generate hdecision
  have hrotated : (reports.any fun r => r.isWritten && r.decision = .rotate) = true ↔
      ∃ f ∈ reports.map FieldReport.outcome, f.decision = .rotate ∧ f.error = none := by
    simp only [List.any_eq_true, Bool.and_eq_true, decide_eq_true_eq, List.mem_map, exists_exists_and_eq_and]
    refine exists_congr fun r => and_congr_right fun hr => ?_
    rw [and_comm]
    exact and_congr_right fun hdecision => (hreported r hr).isWritten_iff_of_rotate hdecision
  simp only [Evaluation.successes, Bool.and_eq_true, hgenerated, hrotated]

/-! ## All that is told -/

/-- The outcomes are those of the listed fields, in order, and tell all that the cycle gives out besides an object. -/
structure ToldByOutcomes (g : Engine) (o : ManagedObject) (v : Evaluation) : Prop where
  listed : v.outcomes.map FieldOutcome.field = o.fields
  failed : ∀ f ∈ v.outcomes, f.error ≠ none → f.decision = .rotate
  notifications : v.notifications =
    v.outcomes.filterMap FieldOutcome.warning? ++
      ((if ∃ f ∈ v.outcomes, f.decision = .generate then [Evaluation.generated] else []) ++
        if g.config.rotation.announce = true ∧ ∃ f ∈ v.outcomes, f.decision = .rotate ∧ f.error = none then
          [Evaluation.rotated]
        else [])
  requeueAfter : Wake.IsEarliest
    (v.outcomes.map fun f => f.wake g.config.rotation.minimum (g.spec o f.field).interval) v.requeueAfter

/-- **Outcomes tell all.** A cycle that goes through has an outcome for each listed field, in order. It warns of the fields
whose interval was refused or whose replacement failed, once for each such outcome and in their order; then it tells that
values were generated, if one was, and that values were replaced, if this is to be told and one was. It wants to run again
after the shortest time that an outcome asks for: the interval after a new value, unless it is too short, the shortest
interval allowed after a failure, the wait for the gate, or the time until a value is old enough. -/
theorem toldByOutcomes_of_evaluate (h : g.evaluate o now e = .ok (v, rest)) : g.ToldByOutcomes o v := by
  obtain ⟨reports, hfields, hreported, rfl⟩ := exists_reports_of_evaluate h
  have hwakes : reports.map (FieldReport.wake g.config.rotation.minimum) =
      (reports.map FieldReport.outcome).map fun f => f.wake g.config.rotation.minimum (g.spec o f.field).interval := by
    rw [List.map_map]
    refine List.map_congr_left fun r hr => ?_
    rw [r.wake_eq, (hreported r hr).spec]
    rfl
  refine ⟨by rw [← hfields]; exact List.map_map, fun f hf herror => ?_, ?_, ?_⟩
  · obtain ⟨r, hr, rfl⟩ := List.mem_map.mp hf
    exact (hreported r hr).decision_eq_rotate_of_error herror
  · show reports.filterMap FieldReport.warning? ++ Evaluation.successes g.config.rotation.announce reports = _
    rw [FieldReport.filterMap_warning?_eq, successes_eq hreported]
    rfl
  · show Wake.IsEarliest ((reports.map FieldReport.outcome).map _)
      (Wake.earliest (reports.map (FieldReport.wake g.config.rotation.minimum)))
    rw [← hwakes]
    exact Wake.isEarliest_earliest _

/-- An object with a salt to fill, a password of a kind that there is not, an hourly token, a pin whose interval is too
short, and a daily code. -/
def mixedFields : ManagedObject :=
  ⟨⟨"default", "db"⟩, none,
    ((((((∅ : Annotations).insert Annotations.autogenerate "salt,password,token,pin,code").insert
      Annotations.generatedAt "1970-01-01T00:00:00Z").insert Annotations.rotate "1h").insert
      (Annotations.fieldKey Annotations.kind "password") "x").insert
      (Annotations.fieldKey Annotations.rotate "pin") "1s").insert (Annotations.fieldKey Annotations.rotate "code") "24h",
    ((((∅ : Entries).insert "password" (.ofText "a")).insert "token" (.ofText "b")).insert "pin" (.ofText "c")).insert
      "code" (.ofText "d")⟩

/-- Replacements are announced, and there is no gate. -/
def announcing : Engine := ⟨{ (default : EngineConfig) with rotation := ⟨.ofSeconds 300, true⟩ }, .standard "x"⟩

/-- Two of the fields are warned of, in their order, before both successes are told. The failure is what is waited for. -/
theorem toldByOutcomes_mixedFields :
    ∃ done ∈ (announcing.evaluate mixedFields (.ofSeconds 43200) ⟨fun _ => 0, 0⟩).toOption,
      announcing.ToldByOutcomes mixedFields done.1 ∧
        done.1.outcomes.map (·.decision.name) = ["generate", "rotate", "rotate", "below_minimum", "skip"] ∧
        done.1.notifications.map (·.reason) =
          [.rotationFailed, .rotationFailed, .generationSucceeded, .rotationSucceeded] ∧
        done.1.requeueAfter = some (.ofSeconds 300) := by
  have hdone : ∃ done ∈ (announcing.evaluate mixedFields (.ofSeconds 43200) ⟨fun _ => 0, 0⟩).toOption,
      done.1.outcomes.map (·.decision.name) = ["generate", "rotate", "rotate", "below_minimum", "skip"] ∧
        done.1.notifications.map (·.reason) =
          [.rotationFailed, .rotationFailed, .generationSucceeded, .rotationSucceeded] ∧
        done.1.requeueAfter = some (.ofSeconds 300) := by
    decide +kernel
  obtain ⟨done, hdone, hnames⟩ := hdone
  exact ⟨done, hdone, toldByOutcomes_of_evaluate (eq_ok_of_mem_toOption hdone), hnames⟩

end Engine

end SecretRotation
