import SecretRotation.Cycle.Breakdown
import SecretRotation.Proofs.Cycle.Reports
import SecretRotation.Proofs.Field.Decision
import SecretRotation.Proofs.Field.Material

/-!
# Cycles that do not break down

A cycle that goes through has looked at all its fields, so that none of them breaks it down. Settings that make no material
never ask for more than a memory holds.

## Main results

* `Generator.overflows_eq_false_of_error`: settings that fail do not overflow.
* `Generator.exists_error_of_refuses`: settings that make no material fail, whatever the entropy.
* `Engine.strandedAt_iff`: where there is no decision for a field.
* `Engine.breaksDownAt_eq_false`: no field breaks down a cycle that goes through.
-/

namespace SecretRotation

namespace Generator

variable {g : Generator} {spec : FieldSpec} {e : Entropy} {cause : GeneratorError}

theorem overflows_eq_false_of_error (h : g.produce spec e = .error cause) :
    (spec.kind.toOption.any fun kind => g.overflows kind spec.length) = false := by
  rw [produce] at h
  split at h
  · rename_i hkind
    rw [hkind]
    rfl
  · rename_i hkind
    rw [hkind]
    rcases text_eq_error_iff.mp (map_eq_error_iff.mp h) with ⟨hlength, -⟩ | ⟨-, hcharset, -⟩
    · simp [Except.toOption, overflows, hlength, memoryBound]
    · simp [Except.toOption, overflows, hcharset]
  · rename_i hkind
    rw [hkind]
    obtain ⟨hlength, -⟩ := bytes_eq_error_iff.mp (map_eq_error_iff.mp h)
    simp [Except.toOption, overflows, hlength, memoryBound]
  all_goals
    rename_i hkind
    rw [hkind]
    rfl

/-- Settings that leave something to complain about are those that make no material. -/
theorem isSome_complaint? (g : Generator) (spec : FieldSpec) : (g.complaint? spec).isSome = g.refuses spec := by
  cases hkind : spec.kind with
  | error cause => simp [complaint?, refuses, hkind]
  | ok kind =>
    cases kind with
    | string => by_cases hlength : spec.length = 0 <;> simp [complaint?, refuses, hkind, hlength, apply_ite Option.isSome]
    | bytes => simp [complaint?, refuses, hkind, apply_ite Option.isSome]
    | rsa => simp [complaint?, refuses, hkind, apply_ite Option.isSome]
    | ecdsa => cases hcurve : NistCurve.ofName? spec.curve <;> simp [complaint?, refuses, hkind, hcurve]
    | ed25519 => simp [complaint?, refuses, hkind]

/-- Settings that make no material fail, whatever the entropy. -/
theorem exists_error_of_refuses (h : g.refuses spec = true) (e : Entropy) : ∃ cause, g.produce spec e = .error cause := by
  rw [← isSome_complaint?] at h
  rcases g.produce_cases spec e with ⟨cause, -, hproduce⟩ | ⟨hnone, -⟩
  · exact ⟨cause, hproduce⟩
  · rw [hnone] at h
    cases h

end Generator

namespace Engine

variable {g : Engine} {o : ManagedObject} {now : Instant} {field : String} {fields : List String}

theorem breaksDownAt_eq_false_iff : g.breaksDownAt o now field = false ↔
    FieldSpec.intervalBreaks o.annotations field = false ∧ g.strandedAt o now field = false ∧
      ((g.decide o field now).producesMaterial = true →
        ((g.spec o field).kind.toOption.any fun kind => g.generator.overflows kind (g.spec o field).length) = false) := by
  rw [breaksDownAt, Bool.or_eq_false_iff, Bool.or_eq_false_iff, and_assoc, Bool.and_eq_false_imp]

/-- A field is stranded exactly where it is to be put off and the search for the next opening breaks down. -/
theorem strandedAt_iff : g.strandedAt o now field = true ↔
    (∃ wait, g.decide o field now = .defer wait) ∧ g.config.gate.SearchBreaks now := by
  rw [strandedAt, Option.isNone_iff_eq_none, tryDecide, Decision.tryMake_eq_none_iff, decide]

theorem strandedAt_congr {o' : ManagedObject} (h : g.decide o' field now = g.decide o field now) :
    g.strandedAt o' now field = g.strandedAt o now field := by
  rw [Bool.eq_iff_iff, strandedAt_iff, strandedAt_iff, h]

/-- No field is stranded where the search for the next opening does not break down. -/
theorem strandedAt_eq_false (h : ¬ g.config.gate.SearchBreaks now) : g.strandedAt o now field = false :=
  Bool.eq_false_iff.mpr fun hstranded => h (strandedAt_iff.mp hstranded).2

/-- Without a gate there is no search. -/
theorem strandedAt_of_disabled (h : g.config.gate.enabled = false) : g.strandedAt o now field = false :=
  strandedAt_eq_false fun hbreaks => by simp [h, Gate.SearchBreaks] at hbreaks

theorem breaksDown_eq_false (h : ∀ field ∈ fields, g.breaksDownAt o now field = false) :
    g.breaksDown o now fields = false := by
  induction fields with
  | nil => rfl
  | cons field fields ih =>
    simp only [breaksDown, h field List.mem_cons_self, ih fun f hf => h f (List.mem_cons_of_mem _ hf)]
    simp

/-- A cycle that does not break down, and whose fields can all be filled, breaks down at none of them. -/
theorem breaksDownAt_eq_false (h : g.breaksDown o now fields = false)
    (hfilled : ∀ field ∈ fields, g.decide o field now = .generate → g.generator.refuses (g.spec o field) = false) :
    ∀ field ∈ fields, g.breaksDownAt o now field = false := by
  induction fields with
  | nil => simp
  | cons field fields ih =>
    have hends : (g.decide o field now = .generate && g.generator.refuses (g.spec o field)) = false := by
      by_cases hgenerate : g.decide o field now = .generate
      · simp [hfilled field List.mem_cons_self hgenerate]
      · simp [hgenerate]
    simp only [breaksDown, Bool.or_eq_false_iff, hends, Bool.not_false, Bool.true_and] at h
    intro f hf
    rcases List.mem_cons.mp hf with rfl | hf
    · exact h.1
    · exact ih h.2 (fun f hf => hfilled f (List.mem_cons_of_mem _ hf)) f hf

end Engine

end SecretRotation
