import SecretRotation.Proofs.Cycle.Promise
import SecretRotation.Proofs.Reconcile.Waiting
import SecretRotation.Proofs.Settings.Usable
import SecretRotation.Proofs.Window.Announced

/-!
# Cycles that ask for another one at once

A cycle that asks to be followed by another one at once, at the same instant and over the same object, would be followed by
it again and again. New values and values that are too young always leave some time. No time is left by a replacement that
failed, if intervals may be of any length, and by a wait from the leap second before midnight for a gate that opens then.

## Main results

* `Gate.wait_eq_zero_iff_of_steady`: when a shut gate on steady clocks is not waited for.
* `Engine.requeueAfter_eq_zero_iff`: which outcomes make a cycle ask for another one at once.
* `Engine.requeues_at_once_iff`: when a cycle by accepted settings does.
* `Engine.exists_busy_cycle`: some do.
-/

namespace SecretRotation

theorem Settings.accepted_of_engineConfig {s : Settings} {config : EngineConfig} (h : s.engineConfig = .ok config) :
    ∀ w ∈ config.gate.windows, w.Accepted := by
  rw [engineConfig] at h
  obtain ⟨defaults, -, h⟩ := exists_of_bind_eq_ok h
  obtain ⟨rotation, -, h⟩ := exists_of_bind_eq_ok h
  obtain ⟨gate, hgate, h⟩ := exists_of_bind_eq_ok h
  cases h
  exact GateText.accepted_of_build (mapError_eq_ok_iff.mp hgate)

/-- A shut gate on steady clocks is waited for, unless it opens at the midnight that a leap second comes before. -/
theorem Gate.wait_eq_zero_iff_of_steady {g : Gate} {t : Instant}
    (hw : ∀ w ∈ g.windows, w.zone.SteadyAround t ∧ w.zone.Bounded) (hc : ¬ g.Open t) :
    g.wait t = .zero ↔
      t.inLeapSecond = true ∧ (t.seconds + 1) % Instant.perDay = 0 ∧ g.nextOpening? t = some (t.seconds + 1) := by
  obtain ⟨s, hnext, hlater, -⟩ := exists_opening_of_steady hw hc
  have hpositive := Instant.zero_lt_elapsed_iff hlater
  rw [wait_eq hc hnext, hnext, Option.some.injEq]
  -- The opening is later, and only from a leap second can a later instant be no time away.
  constructor
  · intro hzero
    rw [hzero] at hpositive
    have hleap := not_not.mp (mt hpositive.mpr (Nat.lt_irrefl 0))
    obtain ⟨hin, rfl, hmidnight⟩ := hleap
    exact ⟨hin, hmidnight, rfl⟩
  · rintro ⟨hin, hmidnight, rfl⟩
    have hnot : ¬ .zero < (Instant.ofSeconds (t.seconds + 1)).elapsed t := fun h => hpositive.mp h ⟨hin, rfl, hmidnight⟩
    exact congrArg Duration.mk (Nat.eq_zero_of_not_pos hnot)

namespace Engine

variable {g : Engine} {o : ManagedObject} {now : Instant} {e rest : Entropy} {v : Evaluation}

/-- A cycle asks for another one at once for the sake of a single field. -/
theorem requeueAfter_eq_zero_iff (heval : g.evaluate o now e = .ok (v, rest)) :
    v.requeueAfter = some .zero ↔
      (g.config.rotation.minimum = .zero ∧ ∃ f ∈ v.outcomes, f.decision = .rotate ∧ f.error.isSome = true) ∨
        ∃ f ∈ v.outcomes, f.decision = .defer .zero := by
  obtain ⟨reports, -, hreported, rfl⟩ := exists_reports_of_evaluate heval
  have hearliest := Wake.isEarliest_earliest (reports.map (FieldReport.wake g.config.rotation.minimum))
  -- The earliest of several times is now exactly if one of them is.
  have hzero : (Evaluation.ofReports g.config.rotation o now reports).requeueAfter = some .zero ↔
      ∃ r ∈ reports, r.wake g.config.rotation.minimum = some .zero := by
    constructor
    · intro h
      exact List.mem_map.mp (hearliest.mem _ h)
    · rintro ⟨r, hr, hwake⟩
      obtain ⟨d, hd, hle⟩ := hearliest.le _ (List.mem_map.mpr ⟨r, hr, hwake⟩)
      obtain rfl : d = .zero := congrArg Duration.mk (Nat.le_zero.mp hle)
      exact hd
  rw [hzero]
  constructor
  · rintro ⟨r, hr, hwake⟩
    rcases (hreported r hr).wake_eq_zero_iff.mp hwake with ⟨hminimum, hrotate, hfailed⟩ | hdefer
    · exact .inl ⟨hminimum, r.outcome, List.mem_map_of_mem hr, hrotate, hfailed⟩
    · exact .inr ⟨r.outcome, List.mem_map_of_mem hr, hdefer⟩
  · rintro (⟨hminimum, f, hf, hrotate, hfailed⟩ | ⟨f, hf, hdefer⟩)
    · obtain ⟨r, hr, rfl⟩ := List.mem_map.mp hf
      exact ⟨r, hr, (hreported r hr).wake_eq_zero_iff.mpr (.inl ⟨hminimum, hrotate, hfailed⟩)⟩
    · obtain ⟨r, hr, rfl⟩ := List.mem_map.mp hf
      exact ⟨r, hr, (hreported r hr).wake_eq_zero_iff.mpr (.inr hdefer)⟩

theorem shut_of_outcome_defer (heval : g.evaluate o now e = .ok (v, rest)) {f : FieldOutcome} (hf : f ∈ v.outcomes)
    {wait : Duration} (hdefer : f.decision = .defer wait) : ¬ g.config.gate.Open now ∧ wait = g.config.gate.wait now := by
  have hdecision := (outcomes_of_evaluate heval).2 f hf
  rw [hdefer] at hdecision
  exact Decision.eq_wait_of_make_eq_defer hdecision.symm

/-- **No needless cycles, but for two cases.** By settings that pass all checks, with a gate that is not in force or whose
windows are on steady clocks, a cycle over any object at any instant asks for another one at once exactly if intervals may
be of any length and a replacement failed, or if a field is put off in the leap second before a midnight at which the gate
opens. -/
theorem requeues_at_once_iff {l : Layer} {s : Settings} (hfinal : l.finalize = .ok s) :
    ∃ config, s.engineConfig = .ok config ∧
      ∀ (keys : KeySource) (o : ManagedObject) (now : Instant) (e rest : Entropy) (v : Evaluation),
        (config.gate.enabled = true → ∀ w ∈ config.gate.windows, w.zone.SteadyAround now) →
        evaluate ⟨config, ⟨s.defaults.charset, keys⟩⟩ o now e = .ok (v, rest) →
          (v.requeueAfter = some .zero ↔
            (config.rotation.minimum = .zero ∧ ∃ f ∈ v.outcomes, f.decision = .rotate ∧ f.error.isSome = true) ∨
              (∃ f ∈ v.outcomes, ∃ wait, f.decision = .defer wait) ∧ now.inLeapSecond = true ∧
                (now.seconds + 1) % Instant.perDay = 0 ∧ config.gate.nextOpening? now = some (now.seconds + 1)) := by
  obtain ⟨config, hconfig⟩ := Layer.engineConfig_of_finalize hfinal
  refine ⟨config, hconfig, fun keys o now e rest v hsteady heval => ?_⟩
  -- All fields that are put off wait equally long, since the wait is that of the gate.
  have hwait : ∀ f ∈ v.outcomes, ∀ wait, f.decision = .defer wait → (wait = .zero ↔
      now.inLeapSecond = true ∧ (now.seconds + 1) % Instant.perDay = 0 ∧
        config.gate.nextOpening? now = some (now.seconds + 1)) := by
    intro f hf wait hdefer
    obtain ⟨hshut, rfl⟩ := shut_of_outcome_defer heval hf hdefer
    have henabled := (Gate.not_open_iff.mp hshut).1
    exact Gate.wait_eq_zero_iff_of_steady (fun w hw =>
      ⟨hsteady henabled w hw, (Settings.accepted_of_engineConfig hconfig w hw).bounded⟩) hshut
  rw [requeueAfter_eq_zero_iff heval]
  refine or_congr_right ⟨?_, ?_⟩
  · rintro ⟨f, hf, hdefer⟩
    exact ⟨⟨f, hf, .zero, hdefer⟩, (hwait f hf .zero hdefer).mp rfl⟩
  · rintro ⟨⟨f, hf, wait, hdefer⟩, hleap⟩
    obtain rfl := (hwait f hf wait hdefer).mpr hleap
    exact ⟨f, hf, hdefer⟩

/-- A layer with a gate that opens on Sundays in Abidjan. -/
def sundays : Layer :=
  { Layer.empty with rotation := some { minimum := none, announce := none, windows := some {
      enabled := some true, windows := some [⟨none, ["sunday"], "02:00", "04:00", "Africa/Abidjan"⟩] } } }

/-- On a Thursday at noon a cycle puts the password off until Sunday and fills the token, and asks for no other one at once. -/
theorem requeues_at_once_iff_abidjan :
    ∃ done ∈ (evaluate ⟨gated.config, ⟨sundays.resolve.defaults.charset, .standard⟩⟩ passwordAndToken (.ofSeconds 43200)
        ⟨fun _ => 0, 0⟩).toOption,
      (∃ f ∈ done.1.outcomes, f.decision = .defer (.ofSeconds 223200)) ∧ done.1.requeueAfter ≠ some .zero := by
  have hresolved : sundays.resolve.engineConfig = .ok gated.config := by decide +kernel
  have hfinal : sundays.finalize = .ok sundays.resolve := by rw [Layer.finalize, hresolved]
  obtain ⟨config, hconfig, hall⟩ := requeues_at_once_iff hfinal
  obtain rfl : gated.config = config := Except.ok.inj (hresolved.symm.trans hconfig)
  have hsteady : ∀ w ∈ gated.config.gate.windows, w.zone.SteadyAround (.ofSeconds 43200) := by
    intro w hw
    obtain rfl := List.mem_singleton.mp hw
    exact Gate.steadyAround_abidjanSunday (by decide) (by decide)
  have hdone : ∃ done ∈ (evaluate ⟨gated.config, ⟨sundays.resolve.defaults.charset, .standard⟩⟩ passwordAndToken
      (.ofSeconds 43200) ⟨fun _ => 0, 0⟩).toOption,
      (∃ f ∈ done.1.outcomes, f.decision = .defer (.ofSeconds 223200)) ∧ ∀ f ∈ done.1.outcomes, f.error.isSome = false := by
    decide +kernel
  obtain ⟨done, hdone, hdeferred, hgood⟩ := hdone
  refine ⟨done, hdone, hdeferred, fun hzero => ?_⟩
  have heval := eq_ok_of_mem_toOption hdone
  rcases (hall .standard passwordAndToken (.ofSeconds 43200) _ done.2 done.1 (fun _ => hsteady) heval).mp hzero with
    ⟨-, f, hf, -, hfailed⟩ | ⟨-, hleap, -⟩
  · rw [hgood f hf] at hfailed
    cases hfailed
  · cases hleap

/-! ## A busy cycle -/

/-- A layer that allows intervals of any length. -/
def anyLength : Layer := { Layer.empty with rotation := some { minimum := some "0s", announce := none, windows := none } }

/-- An object with an hourly password of a kind that there is not. -/
def unknownKind : ManagedObject :=
  ⟨⟨"default", "db"⟩, none,
    ((((∅ : Annotations).insert Annotations.autogenerate "password").insert Annotations.rotate "1h").insert
      Annotations.kind "x").insert Annotations.generatedAt "1970-01-01T00:00:00Z",
    (∅ : Entries).insert "password" (.ofText "existing")⟩

/-- Not all cycles by accepted settings leave some time: the password of an unknown kind is tried again at once. -/
theorem exists_busy_cycle :
    ¬ ∀ (l : Layer) (s : Settings) (config : EngineConfig) (keys : KeySource) (o : ManagedObject) (now : Instant)
        (e rest : Entropy) (v : Evaluation), l.finalize = .ok s → s.engineConfig = .ok config →
      (config.gate.enabled = true → ∀ w ∈ config.gate.windows, w.zone.SteadyAround now) →
      evaluate ⟨config, ⟨s.defaults.charset, keys⟩⟩ o now e = .ok (v, rest) → v.requeueAfter ≠ some .zero := by
  intro hall
  have hconfig : anyLength.resolve.engineConfig = .ok { (default : EngineConfig) with rotation := ⟨.zero, false⟩ } := by
    decide +kernel
  have hfinal : anyLength.finalize = .ok anyLength.resolve := by rw [Layer.finalize, hconfig]
  have hbusy : ∃ done ∈ (evaluate ⟨{ (default : EngineConfig) with rotation := ⟨.zero, false⟩ },
      ⟨anyLength.resolve.defaults.charset, .standard⟩⟩ unknownKind (.ofSeconds 7200) ⟨fun _ => 0, 0⟩).toOption,
      done.1.requeueAfter = some .zero := by decide +kernel
  obtain ⟨done, hdone, hzero⟩ := hbusy
  exact hall anyLength anyLength.resolve _ .standard unknownKind (.ofSeconds 7200) _ done.2 done.1 hfinal hconfig
    (fun h => by cases h) (eq_ok_of_mem_toOption hdone) hzero

end Engine

end SecretRotation
