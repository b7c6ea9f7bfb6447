import SecretRotation.Proofs.Cycle.Breakdown
import SecretRotation.Proofs.Cycle.Stamping
import SecretRotation.Proofs.Cycle.Wake
import SecretRotation.Proofs.Window.Reach
import SecretRotation.Proofs.Window.Steady

/-!
# Quiet until the wake-up

A cycle says after what time it wants to run again. Until then another cycle over the object that it has left behind
finds nothing to write: written fields are as young as the cycle, all others have not come of age or wait for the gate,
and what failed fails again. Stamps are cut off to the second, and with it up to a second of that time may be lost.

## Main definitions

* `Engine.QuietAt`: a cycle writes nothing for a field.
* `Engine.WritesNothing`: a cycle goes through and writes nothing.

## Main results

* `Engine.writesNothing_iff_of_quiet`: a cycle over quiet fields writes nothing, unless it has no decision for one of them.
* `Engine.nothing_written_before_wake_iff`: until the wake-up nothing is written, and cycles go through unless a field is
  stranded at the end of the calendar.
* `Engine.exists_cycle_stranded_before_wake`: not all cycles before the wake-up go through.
-/

namespace SecretRotation

/-! ## Ages -/

namespace Instant

variable {now s b : Instant} {d r : Duration}

theorem elapsed_lt_iff (hs : s.Ordinary) (hb : b.Ordinary) :
    s.elapsed b < d ↔ 0 < d.nanoseconds ∧ s.count - b.count < d.nanoseconds := by
  have h := nanoseconds_elapsed hs hb
  rw [Duration.lt_def]
  omega

/-- Cutting off to the second loses less than a second. -/
theorem count_ofSeconds_seconds (hb : b.Ordinary) :
    (ofSeconds b.seconds).count ≤ b.count ∧ b.count < (ofSeconds b.seconds).count + Duration.perSecond := by
  rw [count_ofSeconds, count]
  simp only [Ordinary] at hb
  omega

/-- What is young at an instant is young until it comes of age. -/
theorem elapsed_lt_of_lt_advance (hnow : now.Ordinary) (hs : s.Ordinary) (hb : b.Ordinary)
    (hyoung : now.elapsed b < d) (hlt : s < now.advance r) (hr : r ≤ d - now.elapsed b) : s.elapsed b < d := by
  have hage := nanoseconds_elapsed hnow hb
  rw [lt_iff_count hs (ordinary_advance hnow r), count_advance hnow] at hlt
  rw [elapsed_lt_iff hs hb]
  rw [Duration.lt_def] at hyoung
  rw [Duration.le_def, Duration.nanoseconds_sub] at hr
  omega

/-- A stamp that is cut off to the second makes things come of age by less than a second too early. -/
theorem elapsed_ofSeconds_lt_of_advance_le (hnow : now.Ordinary) (hs : s.Ordinary) (hb : b.Ordinary)
    (hyoung : now.elapsed b < d) (hle : s.advance (.ofSeconds 1) ≤ now.advance r) (hr : r ≤ d - now.elapsed b) :
    s.elapsed (ofSeconds b.seconds) < d := by
  have hage := nanoseconds_elapsed hnow hb
  have hcut := count_ofSeconds_seconds hb
  rw [le_iff_count (ordinary_advance hs _) (ordinary_advance hnow r), count_advance hnow, count_advance hs] at hle
  rw [elapsed_lt_iff hs (ordinary_ofSeconds _)]
  rw [Duration.lt_def] at hyoung
  rw [Duration.le_def, Duration.nanoseconds_sub] at hr
  simp only [Duration.ofSeconds, Duration.perSecond] at *
  omega

/-- What has been written in the present second is young until it comes of age. -/
theorem elapsed_ofSeconds_now_lt (hnow : now.Ordinary) (hs : s.Ordinary) (hns : now ≤ s)
    (hle : s.advance (.ofSeconds 1) ≤ now.advance r) (hr : r ≤ d) : s.elapsed (ofSeconds now.seconds) < d := by
  have hcut := count_ofSeconds_seconds hnow
  rw [le_iff_count (ordinary_advance hs _) (ordinary_advance hnow r), count_advance hnow, count_advance hs] at hle
  rw [le_iff_count hnow hs] at hns
  rw [elapsed_lt_iff hs (ordinary_ofSeconds _)]
  rw [Duration.le_def] at hr
  simp only [Duration.ofSeconds, Duration.perSecond] at *
  omega

theorem lt_advance_of_advance_le (hnow : now.Ordinary) (hs : s.Ordinary)
    (hle : s.advance (.ofSeconds 1) ≤ now.advance r) : s < now.advance r := by
  rw [le_iff_count (ordinary_advance hs _) (ordinary_advance hnow r), count_advance hnow, count_advance hs] at hle
  rw [lt_iff_count hs (ordinary_advance hnow r), count_advance hnow]
  simp only [Duration.ofSeconds, Duration.perSecond] at hle
  omega

end Instant

/-! ## Quiet fields -/

namespace Engine

variable {g : Engine} {o o' : ManagedObject} {now s : Instant} {field : String} {r : FieldReport}

/-- A cycle writes nothing for a field: the field has a value, and if it is due, then its settings make no material. -/
def QuietAt (g : Engine) (o : ManagedObject) (s : Instant) (field : String) : Prop :=
  o.hasValue field = true ∧ (g.Due o field s → ∀ e, ∃ cause, g.generator.produce (g.spec o field) e = .error cause)

/-- If material is asked for at all for a quiet field, then because it is due. -/
theorem QuietAt.decide_eq_rotate (h : g.QuietAt o s field) (hmaterial : (g.decide o field s).producesMaterial = true) :
    g.decide o field s = .rotate := by
  refine (Decision.eq_generate_or_rotate hmaterial).resolve_left ?_
  rw [decide_eq_generate_iff, h.1]
  simp

theorem report_of_quiet (h : g.QuietAt o s field) (e : Entropy) :
    (g.report o s field e).1.fatal? = none ∧ (g.report o s field e).1.isWritten = false := by
  cases hmaterial : (g.decide o field s).producesMaterial with
  | false =>
    rw [report_of_not_producesMaterial e hmaterial]
    exact ⟨by cases g.decide o field s <;> rfl, rfl⟩
  | true =>
    have hrotate := h.decide_eq_rotate hmaterial
    obtain ⟨cause, hcause⟩ := h.2 (decide_eq_rotate_iff.mp hrotate) e
    rw [report_of_producesMaterial e hmaterial, hrotate, attempt_eq_failed_iff.mpr hcause]
    exact ⟨rfl, rfl⟩

/-- A cycle over quiet fields makes all its reports, none of them on a written field. -/
theorem reports_of_quiet {fields : List String} (h : ∀ field ∈ fields, g.QuietAt o s field) :
    ∀ e, ∃ reports rest, g.reports o s fields e = .ok (reports, rest) ∧ ∀ r ∈ reports, r.isWritten = false := by
  -- A field may use up entropy even if its material fails, so that the rest starts with any.
  induction fields with
  | nil => exact fun e => ⟨[], e, rfl, by simp⟩
  | cons field fields ih =>
    intro e
    obtain ⟨hfatal, hwritten⟩ := report_of_quiet (h field List.mem_cons_self) e
    obtain ⟨reports, rest, hreports, hrest⟩ :=
      ih (fun f hf => h f (List.mem_cons_of_mem _ hf)) (g.report o s field e).2
    refine ⟨(g.report o s field e).1 :: reports, rest, ?_, fun r hr => ?_⟩
    · simp only [Engine.reports, hfatal, hreports]
    · rcases List.mem_cons.mp hr with rfl | hr
      · exact hwritten
      · exact hrest r hr

/-- A cycle goes through and writes nothing. -/
structure WritesNothing (g : Engine) (o : ManagedObject) (s : Instant) (e : Entropy) : Prop where
  stands : g.breaksDown o s o.fields = false
  quiet : ∃ v rest, g.evaluate o s e = .ok (v, rest) ∧ v.object = none

/-- A quiet field makes no material that would be longer than any memory, so that it breaks down only if it is stranded. -/
theorem breaksDownAt_of_quiet (h : g.QuietAt o s field) (hinterval : FieldSpec.intervalBreaks o.annotations field = false) :
    g.breaksDownAt o s field = g.strandedAt o s field := by
  have hmade : (g.decide o field s).producesMaterial = true →
      ((g.spec o field).kind.toOption.any fun kind => g.generator.overflows kind (g.spec o field).length) = false := by
    intro hmaterial
    obtain ⟨cause, hcause⟩ := h.2 (decide_eq_rotate_iff.mp (h.decide_eq_rotate hmaterial)) ⟨fun _ => 0, 0⟩
    exact Generator.overflows_eq_false_of_error hcause
  rw [Bool.eq_iff_iff, ← not_iff_not, Bool.not_eq_true, Bool.not_eq_true, breaksDownAt_eq_false_iff]
  exact ⟨fun hstands => hstands.2.1, fun hdecided => ⟨hinterval, hdecided, hmade⟩⟩

/-- A cycle over quiet fields goes through and writes nothing, unless one of them is stranded. -/
theorem writesNothing_iff_of_quiet (h : ∀ field ∈ o.fields, g.QuietAt o s field)
    (hintervals : ∀ field ∈ o.fields, FieldSpec.intervalBreaks o.annotations field = false) (e : Entropy) :
    g.WritesNothing o s e ↔ ∀ field ∈ o.fields, g.strandedAt o s field = false := by
  have hbreaks := fun field hfield => breaksDownAt_of_quiet (h field hfield) (hintervals field hfield)
  constructor
  · intro hwrites field hfield
    -- No field is without a value, so that the cycle looks at all of them.
    rw [← hbreaks field hfield]
    refine breaksDownAt_eq_false hwrites.stands (fun f hf hgenerate => ?_) field hfield
    have hvalue := (h f hf).1
    rw [decide_eq_generate_iff.mp hgenerate] at hvalue
    cases hvalue
  · intro hdecided
    obtain ⟨reports, rest, hreports, hwritten⟩ := reports_of_quiet h e
    refine ⟨breaksDown_eq_false fun f hf => (hbreaks f hf).trans (hdecided f hf), _, rest,
      by rw [evaluate, hreports], if_pos ?_⟩
    rw [Evaluation.written, List.map_eq_nil_iff, List.filter_eq_nil_iff]
    exact fun r hr => by simp [hwritten r hr]

/-! ## Fields that were not written -/

theorem decide_eq_of_interval {interval : Duration} (hvalue : o.hasValue field = true)
    (hinterval : (g.spec o field).interval = some interval) (hshort : ¬ interval < g.config.rotation.minimum) :
    g.decide o field now =
      match o.baseline? field with
      | none => .skip (some interval)
      | some baseline => .ofAge interval baseline g.config.gate now := by
  cases hbaseline : o.baseline? field with
  | none => simp only [decide, state, Decision.make, spec_field, hvalue, if_true, hinterval, if_neg hshort, hbaseline]
  | some baseline =>
    simp only [decide, state, Decision.make, spec_field, hvalue, if_true, hinterval, if_neg hshort, hbaseline]

/-- The wake-up of a field that is not old enough yet, or that waits for the gate. -/
theorem Reported.wake_eq (hr : g.Reported o now r) {interval : Duration} (hvalue : o.hasValue r.field = true)
    (hinterval : (g.spec o r.field).interval = some interval) (hshort : ¬ interval < g.config.rotation.minimum)
    (hdue : ¬ g.Due o r.field now) (minimum : Duration) :
    r.wake minimum = some
      (match o.baseline? r.field with
      | none => interval
      | some baseline =>
        if now.elapsed baseline < interval then interval - now.elapsed baseline else g.config.gate.wait now) := by
  have hdecision := hr.decision
  rw [decide_eq_of_interval hvalue hinterval hshort] at hdecision
  cases hbaseline : o.baseline? r.field with
  | none =>
    rw [hbaseline] at hdecision
    simp only [FieldReport.wake, hdecision]
  | some baseline =>
    rw [hbaseline] at hdecision
    simp only [Decision.ofAge] at hdecision
    by_cases hyoung : now.elapsed baseline < interval
    · rw [if_pos hyoung] at hdecision
      simp only [FieldReport.wake, hdecision, if_pos hyoung]
    · have hshut : ¬ g.config.gate.Open now := fun hopen =>
        hdue ⟨hvalue, hopen, interval, baseline, hinterval, hshort, hbaseline, hyoung⟩
      rw [if_neg hyoung, if_neg hshut] at hdecision
      simp only [FieldReport.wake, hdecision, if_neg hyoung]

/-- A field that was not written stays quiet until it wants to be looked at again, if its age then counts from no earlier
than is allowed for. -/
theorem Reported.quietAt (hr : g.Reported o now r) (hwritten : r.isWritten = false) (hvalue : o.hasValue r.field = true)
    (hvalue' : o'.hasValue r.field = true) (hspec : g.spec o' r.field = g.spec o r.field)
    (hdelivers : g.generator.Delivers (g.spec o r.field))
    (hshut : ¬ g.config.gate.Open now → s < now.advance (g.config.gate.wait now) → ¬ g.config.gate.Open s)
    (hbefore : ∀ d, r.wake g.config.rotation.minimum = some d → s < now.advance d)
    (hyoung : ∀ interval baseline, o'.baseline? r.field = some baseline →
      (o.baseline? r.field = none ∧ r.wake g.config.rotation.minimum = some interval ∨
        ∃ previous, o.baseline? r.field = some previous ∧ now.elapsed previous < interval ∧
          r.wake g.config.rotation.minimum = some (interval - now.elapsed previous)) →
      s.elapsed baseline < interval) :
    g.QuietAt o' s r.field := by
  refine ⟨hvalue', fun hdue e => ?_⟩
  by_cases hdueNow : g.Due o r.field now
  · -- The field was due before, and its settings have made no material then.
    have hrotate := hr.decision.trans (decide_eq_rotate_iff.mpr hdueNow)
    obtain ⟨e', he'⟩ := hr.attempted (by rw [hrotate]; rfl)
    cases hproduce : g.generator.produce r.spec e' with
    | ok produced =>
      rw [attempt, hproduce] at he'
      simp [FieldReport.isWritten, he'] at hwritten
    | error cause =>
      rw [hr.spec] at hproduce
      exact ⟨cause, by rw [hspec]; exact Generator.produce_eq_error hdelivers hproduce e⟩
  · -- Otherwise it has waited for its age or for the gate, and neither has come yet.
    exfalso
    obtain ⟨-, hopen, interval, baseline, hinterval, hshort, hbaseline, hold⟩ := hdue
    rw [hspec] at hinterval
    have hwake := hr.wake_eq hvalue hinterval hshort hdueNow g.config.rotation.minimum
    cases hprevious : o.baseline? r.field with
    | none =>
      rw [hprevious] at hwake
      exact hold (hyoung interval baseline hbaseline (Or.inl ⟨hprevious, hwake⟩))
    | some previous =>
      rw [hprevious] at hwake
      by_cases hage : now.elapsed previous < interval
      · simp only [if_pos hage] at hwake
        exact hold (hyoung interval baseline hbaseline (Or.inr ⟨previous, hprevious, hage, hwake⟩))
      · simp only [if_neg hage] at hwake
        have hshutNow : ¬ g.config.gate.Open now := fun hopenNow =>
          hdueNow ⟨hvalue, hopenNow, interval, previous, hinterval, hshort, hprevious, hage⟩
        exact hshut hshutNow (hbefore _ hwake) hopen

/-! ## Fields after a write -/

theorem Reported.exists_produce (hr : g.Reported o now r) (hwritten : r.isWritten = true) :
    ∃ e rest material, g.generator.produce r.spec e = .ok (material, rest) ∧ r.result = .produced material := by
  obtain ⟨material, hresult⟩ := FieldReport.exists_produced hwritten
  obtain ⟨e, he⟩ := hr.attempted (hr.producesMaterial hwritten)
  obtain ⟨rest, hproduce⟩ := attempt_eq_produced_iff.mp (he.symm.trans hresult)
  exact ⟨e, rest, material, hproduce, hresult⟩

theorem Reported.size_ne_zero (hr : g.Reported o now r) {entry : String × SecretBytes} (hentry : entry ∈ r.entries) :
    entry.2.expose.size ≠ 0 := by
  obtain ⟨hwritten, -⟩ := FieldReport.of_mem_entries hentry
  obtain ⟨e, rest, material, hproduce, hresult⟩ := hr.exists_produce hwritten
  simp only [FieldReport.entries, hresult] at hentry
  exact Generator.size_ne_zero_of_produce hproduce entry hentry

/-- A cycle that goes through leaves no field without a value. -/
theorem Reported.hasValue_or_isWritten (hr : g.Reported o now r) : o.hasValue r.field = true ∨ r.isWritten = true := by
  cases hvalue : o.hasValue r.field with
  | true => exact Or.inl rfl
  | false =>
    have hgenerate := hr.decision.trans (decide_eq_generate_iff.mpr hvalue)
    obtain ⟨e, he⟩ := hr.attempted (by rw [hgenerate]; rfl)
    have hfatal := hr.fatal
    rw [attempt] at he
    cases hproduce : g.generator.produce r.spec e with
    | ok produced => exact Or.inr (by simp [FieldReport.isWritten, he, hproduce])
    | error cause => simp [FieldReport.fatal?, hgenerate, FieldReport.cause?, he, hproduce] at hfatal

theorem hasValue_of_entries {reports : List FieldReport} (hreported : ∀ r ∈ reports, g.Reported o now r)
    (hdata : o'.data = Evaluation.entries o.data reports) (hr : r ∈ reports) : o'.hasValue r.field = true := by
  rw [ManagedObject.hasValue, hdata]
  -- The entry is the old one, which is not empty unless it is written, or it is new and then not empty either.
  rcases Evaluation.getElem?_entries o.data reports r.field with ⟨hsame, hnone⟩ | ⟨r', hr', entry, hentry, -, hvalue⟩
  · rw [hsame]
    rcases (hreported r hr).hasValue_or_isWritten with hvalue | hwritten
    · exact hvalue
    · obtain ⟨entry, hentry, hname⟩ := r.exists_mem_entries hwritten
      exact absurd hname (hnone r hr entry hentry)
  · have hsize := (hreported r' hr').size_ne_zero hentry
    simpa [hvalue] using hsize

/-- A written field is quiet until its new value comes of age. -/
theorem Reported.quietAt_of_isWritten (hr : g.Reported o now r) (hwritten : r.isWritten = true)
    (hvalue' : o'.hasValue r.field = true) (hspec : g.spec o' r.field = g.spec o r.field)
    (hyoung : ∀ interval baseline, o'.baseline? r.field = some baseline →
      r.wake g.config.rotation.minimum = some interval → s.elapsed baseline < interval) :
    g.QuietAt o' s r.field := by
  refine ⟨hvalue', fun hdue => ?_⟩
  exfalso
  obtain ⟨-, -, interval, baseline, hinterval, hshort, hbaseline, hold⟩ := hdue
  rw [hspec, ← hr.spec] at hinterval
  refine hold (hyoung interval baseline hbaseline ?_)
  -- A field that can be due has an interval that is not too short, and asks to be woken after it.
  have hallowed : g.config.rotation.minimum ≤ interval := by
    rw [Duration.le_def]
    rw [Duration.lt_def] at hshort
    omega
  have hwake : (some interval : Option Duration).filter (g.config.rotation.minimum ≤ ·) = some interval := by
    simp [hallowed]
  obtain ⟨material, hresult⟩ := FieldReport.exists_produced hwritten
  rcases hr.generate_or_rotate hwritten with ⟨hdecision, -⟩ | ⟨hdecision, -⟩
  · simp only [FieldReport.wake, hdecision, hinterval, hwake]
  · simp only [FieldReport.wake, hdecision, hresult, hinterval, hwake]

/-! ## Quiet until the wake-up -/

/-- Where a cycle has gone through, no interval is one on which the reader breaks down. -/
theorem intervalBreaks_eq_false {fields : List String} {reports : List FieldReport}
    (hstands : g.breaksDown o now fields = false) (hfields : reports.map FieldReport.field = fields)
    (hreported : ∀ r ∈ reports, g.Reported o now r) :
    ∀ field ∈ fields, FieldSpec.intervalBreaks o.annotations field = false := by
  intro field hfield
  have hnot := breaksDownAt_eq_false hstands (fun f hf hgenerate => ?_) field hfield
  · exact (breaksDownAt_eq_false_iff.mp hnot).1
  · -- A field without a value has been filled, so that material can be had for it.
    obtain ⟨r, hr, rfl⟩ := List.mem_map.mp (hfields ▸ hf)
    have hwritten := (hreported r hr).hasValue_or_isWritten.resolve_left (by simp [decide_eq_generate_iff.mp hgenerate])
    obtain ⟨e, rest, material, hproduce, -⟩ := (hreported r hr).exists_produce hwritten
    rw [(hreported r hr).spec] at hproduce
    refine Bool.eq_false_iff.mpr fun hrefuses => ?_
    obtain ⟨cause, hcause⟩ := Generator.exists_error_of_refuses hrefuses e
    rw [hproduce] at hcause
    cases hcause

end Engine

/-- No stamp that the ages of listed fields count from reads a leap second. -/
structure ManagedObject.OrdinaryStamps (o : ManagedObject) : Prop where
  shared : ∀ t, o.stamp? = some t → t.Ordinary
  own : ∀ field ∈ o.fields, ∀ t, o.fieldStamp? field = some t → t.Ordinary

theorem ManagedObject.OrdinaryStamps.baseline {o : ManagedObject} (h : o.OrdinaryStamps) {field : String}
    (hfield : field ∈ o.fields) {t : Instant} (ht : o.baseline? field = some t) : t.Ordinary := by
  rw [baseline?] at ht
  cases hown : o.fieldStamp? field with
  | none =>
    rw [hown] at ht
    exact h.shared t ht
  | some own =>
    rw [hown] at ht
    obtain rfl : own = t := Option.some.inj ht
    exact h.own field hfield own hown

namespace Engine

variable {g : Engine} {o changed : ManagedObject} {now s : Instant} {r : FieldReport} {reports : List FieldReport}

/-- Where nothing was written, a field is quiet until it wants to be looked at again. -/
theorem quietAt_of_not_written (hr : g.Reported o now r) (hwritten : r.isWritten = false) (hfield : r.field ∈ o.fields)
    (hnow : now.Ordinary) (hs : s.Ordinary) (hstamps : o.OrdinaryStamps)
    (hdelivers : g.generator.Delivers (g.spec o r.field))
    (hshut : ¬ g.config.gate.Open now → s < now.advance (g.config.gate.wait now) → ¬ g.config.gate.Open s)
    (hbefore : ∀ d, r.wake g.config.rotation.minimum = some d → s < now.advance d) : g.QuietAt o s r.field := by
  have hvalue := hr.hasValue_or_isWritten.resolve_right (by simp [hwritten])
  refine hr.quietAt hwritten hvalue hvalue rfl hdelivers hshut hbefore fun interval baseline hbaseline hwake => ?_
  rcases hwake with ⟨hnone, -⟩ | ⟨previous, hprevious, hyoung, hwake⟩
  · rw [hbaseline] at hnone
    cases hnone
  · rw [hbaseline] at hprevious
    obtain rfl := Option.some.inj hprevious
    exact Instant.elapsed_lt_of_lt_advance hnow hs (hstamps.baseline hfield hbaseline) hyoung (hbefore _ hwake)
      (Nat.le_refl _)

/-- Where something was written, a field is quiet until a second before it wants to be looked at again. -/
theorem quietAt_of_written (hreported : ∀ r ∈ reports, g.Reported o now r) (hr : r ∈ reports)
    (hfields : reports.map FieldReport.field = o.fields)
    (hchanged : (Evaluation.ofReports g.config.rotation o now reports).object = some changed)
    (hnow : now.Ordinary) (hs : s.Ordinary) (hns : now ≤ s) (hstamps : o.OrdinaryStamps)
    (hdelivers : g.generator.Delivers (g.spec o r.field))
    (hshut : ¬ g.config.gate.Open now → s < now.advance (g.config.gate.wait now) → ¬ g.config.gate.Open s)
    (hslack : ∀ d, r.wake g.config.rotation.minimum = some d → s.advance (.ofSeconds 1) ≤ now.advance d) :
    g.QuietAt changed s r.field := by
  obtain ⟨-, -, -, hannotations, hdata⟩ := Evaluation.of_object_eq_some hchanged
  have hspec : g.spec changed r.field = g.spec o r.field :=
    (ManagedObject.sameSettings_of_stamped hannotations).resolve_eq _ _
  have hvalue' : changed.hasValue r.field = true := hasValue_of_entries hreported hdata hr
  have hfield : r.field ∈ o.fields := hfields ▸ List.mem_map_of_mem hr
  have hage := fun baseline (hbaseline : changed.baseline? r.field = some baseline) =>
    ManagedObject.baseline?_of_stamped hannotations hnow hstamps.shared (List.mem_map_of_mem hr) hbaseline
  cases hwritten : r.isWritten with
  | true =>
    refine (hreported r hr).quietAt_of_isWritten hwritten hvalue' hspec fun interval baseline hbaseline hwake => ?_
    have hmem : r.field ∈ Evaluation.written reports := List.mem_map_of_mem (List.mem_filter.mpr ⟨hr, hwritten⟩)
    rcases hage baseline hbaseline with rfl | ⟨hnot, -⟩
    · exact Instant.elapsed_ofSeconds_now_lt hnow hs hns (hslack _ hwake) (Nat.le_refl _)
    · exact absurd hmem hnot
  | false =>
    have hvalue := (hreported r hr).hasValue_or_isWritten.resolve_right (by simp [hwritten])
    have hbefore := fun d hwake => Instant.lt_advance_of_advance_le hnow hs (hslack d hwake)
    refine (hreported r hr).quietAt hwritten hvalue hvalue' hspec hdelivers hshut hbefore
      fun interval baseline hbaseline hwake => ?_
    rcases hwake with ⟨hnone, hwake⟩ | ⟨previous, hprevious, hyoung, hwake⟩
    · -- Without a stamp before, the age can only count from the present second.
      rcases hage baseline hbaseline with rfl | ⟨-, previous, hprevious, -⟩
      · exact Instant.elapsed_ofSeconds_now_lt hnow hs hns (hslack _ hwake) (Nat.le_refl _)
      · rw [hnone] at hprevious
        cases hprevious
    · -- The age counts from the present second, from where it did before, or from there cut off to the second.
      have hordinary := hstamps.baseline hfield hprevious
      rcases hage baseline hbaseline with rfl | ⟨-, previous', hprevious', hsame⟩
      · exact Instant.elapsed_ofSeconds_now_lt hnow hs hns (hslack _ hwake) (Nat.sub_le _ _)
      · rw [hprevious] at hprevious'
        obtain rfl := Option.some.inj hprevious'
        rcases hsame with rfl | rfl
        · exact Instant.elapsed_lt_of_lt_advance hnow hs hordinary hyoung (hbefore _ hwake) (Nat.le_refl _)
        · exact Instant.elapsed_ofSeconds_lt_of_advance_le hnow hs hordinary hyoung (hslack _ hwake) (Nat.le_refl _)

/-- **Quiet until the wake-up.** After a cycle that has written nothing, another cycle over the same object writes nothing
at any time before the wake-up, however late that is. After a cycle that has written, another one over the written
object writes nothing up to a second before the wake-up. Either goes through exactly if no field is stranded then, and
more than eight days from both ends of the calendar none is. -/
theorem nothing_written_before_wake_iff {v : Evaluation} {e rest : Entropy} (hstands : g.breaksDown o now o.fields = false)
    (heval : g.evaluate o now e = .ok (v, rest)) (hnow : now.Ordinary) (hs : s.Ordinary) (hns : now ≤ s)
    (hstamps : o.OrdinaryStamps)
    (hgate : g.config.gate.enabled = true → ∀ w ∈ g.config.gate.windows, w.Accepted ∧ w.zone.SteadyAround now)
    (hdelivers : ∀ field ∈ o.fields, g.generator.Delivers (g.spec o field)) (e' : Entropy) :
    (v.object = none → (∀ d, v.requeueAfter = some d → s < now.advance d) →
        (g.WritesNothing o s e' ↔ ∀ field ∈ o.fields, g.strandedAt o s field = false)) ∧
      (∀ changed, v.object = some changed →
        (∀ d, v.requeueAfter = some d → s.advance (.ofSeconds 1) ≤ now.advance d) →
          (g.WritesNothing changed s e' ↔ ∀ field ∈ changed.fields, g.strandedAt changed s field = false)) ∧
      (Date.firstDay < s.day → s.day + 8 < Date.lastDay → ∀ object field, g.strandedAt object s field = false) := by
  obtain ⟨reports, hfields, hreported, rfl⟩ := exists_reports_of_evaluate heval
  have hintervals := intervalBreaks_eq_false hstands hfields hreported
  have hwake : ∀ r ∈ reports, ∀ d, r.wake g.config.rotation.minimum = some d →
      ∃ d', (Evaluation.ofReports g.config.rotation o now reports).requeueAfter = some d' ∧ d' ≤ d :=
    fun r hr d hd => Wake.earliest_le (hd ▸ List.mem_map_of_mem hr)
  have hshut : ¬ g.config.gate.Open now → s < now.advance (g.config.gate.wait now) → ¬ g.config.gate.Open s :=
    fun hc hlt => Gate.not_open_of_steady
      (fun w hw => And.intro (hgate (Gate.not_open_iff.mp hc).1 w hw).2 (hgate (Gate.not_open_iff.mp hc).1 w hw).1.bounded)
      hc hns hlt
  refine ⟨?_, ?_, ?_⟩
  · intro hnone hbefore
    refine writesNothing_iff_of_quiet (fun field hfield => ?_) hintervals e'
    obtain ⟨r, hr, rfl⟩ := List.mem_map.mp (hfields ▸ hfield)
    have hwritten := Evaluation.isWritten_of_object_eq_none hnone r hr
    refine quietAt_of_not_written (hreported r hr) hwritten hfield hnow hs hstamps (hdelivers _ hfield) hshut
      fun d hd => ?_
    obtain ⟨d', hd', hle⟩ := hwake r hr d hd
    exact Instant.lt_of_lt_of_le (hbefore d' hd') (Instant.advance_le_advance hnow hle)
  · intro changed hchanged hslack
    have hsame := ManagedObject.sameSettings_of_stamped (Evaluation.of_object_eq_some hchanged).2.2.2.1
    refine writesNothing_iff_of_quiet (fun field hfield => ?_) (fun field hfield => ?_) e'
    · rw [hsame.fields_eq] at hfield
      obtain ⟨r, hr, rfl⟩ := List.mem_map.mp (hfields ▸ hfield)
      refine quietAt_of_written hreported hr hfields hchanged hnow hs hns hstamps (hdelivers _ hfield) hshut
        fun d hd => ?_
      obtain ⟨d', hd', hle⟩ := hwake r hr d hd
      exact Instant.le_trans (hslack d' hd') (Instant.advance_le_advance hnow hle)
    · rw [hsame.fields_eq] at hfield
      rw [hsame.intervalBreaks_eq]
      exact hintervals field hfield
  · intro hfirst hlast object field
    refine strandedAt_eq_false fun hbreaks => ?_
    exact Gate.not_searchBreaks (fun w hw => (hgate hbreaks.1 w hw).1.bounded) hfirst hlast hbreaks

/-- An object with one field to fill anew each hour. -/
def hourly : ManagedObject :=
  ⟨⟨"default", "db"⟩, none,
    ((∅ : Annotations).insert Annotations.autogenerate "password").insert Annotations.rotate "1h", ∅⟩

/-- Texts of one letter, and no gate. -/
def ungated : Engine := ⟨default, .standard "x"⟩

/-- A field that is filled now and wants to be replaced in an hour is quiet up to a second before. -/
theorem nothing_written_before_wake_iff_hourly :
    ∃ done ∈ (ungated.evaluate hourly (.ofSeconds 0) ⟨fun _ => 0, 0⟩).toOption,
      done.1.requeueAfter = some (.ofSeconds 3600) ∧
        ∀ changed, done.1.object = some changed → ungated.WritesNothing changed (.ofSeconds 3599) ⟨fun _ => 0, 0⟩ := by
  have hwake : ∃ done ∈ (ungated.evaluate hourly (.ofSeconds 0) ⟨fun _ => 0, 0⟩).toOption,
      done.1.requeueAfter = some (.ofSeconds 3600) := by
    decide +kernel
  have hfields : hourly.fields = ["password"] := by decide +kernel
  have hstamps : hourly.OrdinaryStamps := by
    have hshared : hourly.stamp? = none := by decide +kernel
    have hown : hourly.fieldStamp? "password" = none := by decide +kernel
    refine ⟨by simp [hshared], fun field hfield => ?_⟩
    obtain rfl : field = "password" := by simpa [hfields] using hfield
    simp [hown]
  have hdelivers : ∀ field ∈ hourly.fields, ungated.generator.Delivers (ungated.spec hourly field) := by
    intro field hfield
    obtain rfl : field = "password" := by simpa [hfields] using hfield
    have hkind : (ungated.spec hourly "password").kind = .ok .string := by
      rw [FieldSpec.kind, show (ungated.spec hourly "password").kindName = "string" by decide +kernel]
      rfl
    exact Generator.delivers_of_not_isKeypair hkind rfl
  obtain ⟨done, hdone, hafter⟩ := hwake
  have heval : ungated.evaluate hourly (.ofSeconds 0) ⟨fun _ => 0, 0⟩ = .ok done := eq_ok_of_mem_toOption hdone
  obtain ⟨-, hquiet, hdecided⟩ := nothing_written_before_wake_iff (s := .ofSeconds 3599) (by decide +kernel) heval
    (Instant.ordinary_ofSeconds 0) (Instant.ordinary_ofSeconds 3599) (by decide) hstamps
    (fun h => absurd h (by decide)) hdelivers ⟨fun _ => 0, 0⟩
  refine ⟨done, hdone, hafter, fun changed hchanged => (hquiet changed hchanged fun d hd => ?_).mpr fun field _ => ?_⟩
  · obtain rfl : .ofSeconds 3600 = d := Option.some.inj (hafter.symm.trans hd)
    decide
  · exact hdecided (by decide) (by decide) changed field

/-- The window of the first hour of Sundays, by clocks that are fourteen hours ahead. -/
def farEastSunday : Window :=
  { Gate.abidjanSunday with
    start := 0, stop := 60, zone := .fixed "Etc/GMT-14" 50400, start_lt_stop := by decide, stop_lt := by decide }

theorem accepted_farEastSunday : farEastSunday.Accepted :=
  ⟨⟨none, ["sunday"], "00:00", "01:00", "Etc/GMT-14"⟩, by decide +kernel⟩

/-- Failed replacements are tried again after some hundred and twenty thousand years. -/
def patient : Engine :=
  ⟨⟨default, ⟨.ofSeconds 3800000000000, false⟩, ⟨true, [farEastSunday], by simp⟩⟩, .standard "x"⟩

/-- An object with a value for which no other one can be made, to be replaced after still more time. -/
def unmakeable : ManagedObject :=
  ⟨⟨"default", "db"⟩, none,
    ((((∅ : Annotations).insert Annotations.autogenerate "password").insert Annotations.kind "x").insert
      Annotations.rotate "4000000000000s").insert Annotations.generatedAt "1970-01-01T00:00:00Z",
    (∅ : Entries).insert "password" (.ofText "existing")⟩

/-- Not all cycles before the wake-up go through: a replacement fails within a window, and on the last evening of the
calendar, while it is not to be tried again yet, the field is put off by a clock that is in the year after it. -/
theorem exists_cycle_stranded_before_wake :
    ¬ ∀ (g : Engine) (o : ManagedObject) (now s : Instant) (v : Evaluation) (e rest e' : Entropy),
      g.breaksDown o now o.fields = false → g.evaluate o now e = .ok (v, rest) → now.Ordinary → s.Ordinary → now ≤ s →
      o.OrdinaryStamps →
      (g.config.gate.enabled = true → ∀ w ∈ g.config.gate.windows, w.Accepted ∧ w.zone.SteadyAround now) →
      (∀ field ∈ o.fields, g.generator.Delivers (g.spec o field)) → v.object = none →
      (∀ d, v.requeueAfter = some d → s < now.advance d) → g.WritesNothing o s e' := by
  intro hall
  have hfails : ∃ done ∈ (patient.evaluate unmakeable (.ofSeconds 4649702610600) ⟨fun _ => 0, 0⟩).toOption,
      done.1.object = none ∧ done.1.requeueAfter = some (.ofSeconds 3800000000000) := by
    decide +kernel
  obtain ⟨done, hdone, hnone, hafter⟩ := hfails
  have hfields : unmakeable.fields = ["password"] := by decide +kernel
  have hstamps : unmakeable.OrdinaryStamps := by
    have hshared : unmakeable.stamp? = some (.ofSeconds 0) := by decide +kernel
    have hown : unmakeable.fieldStamp? "password" = none := by decide +kernel
    refine ⟨fun t ht => ?_, fun field hfield t ht => ?_⟩
    · obtain rfl := Option.some.inj (hshared.symm.trans ht)
      exact Instant.ordinary_ofSeconds 0
    · obtain rfl : field = "password" := by simpa [hfields] using hfield
      exact nomatch hown.symm.trans ht
  have hsteady : farEastSunday.zone.SteadyAround (.ofSeconds 4649702610600) :=
    ⟨by decide, by decide, Zone.constantOn_of_le (by simp [farEastSunday, Zone.fixed]) _⟩
  have hdelivers : ∀ field ∈ unmakeable.fields, patient.generator.Delivers (patient.spec unmakeable field) := by
    intro field hfield
    obtain rfl : field = "password" := by simpa [hfields] using hfield
    have hkind : (patient.spec unmakeable "password").kind = .error (.unknownKind "x") := by
      rw [FieldSpec.kind, show (patient.spec unmakeable "password").kindName = "x" by decide +kernel]
      rfl
    exact Generator.delivers_of_unknownKind hkind
  have hquiet := hall patient unmakeable (.ofSeconds 4649702610600) (.ofSeconds 8210266862400) done.1 _ done.2
    ⟨fun _ => 0, 0⟩ (by decide +kernel) (eq_ok_of_mem_toOption hdone) (Instant.ordinary_ofSeconds _)
    (Instant.ordinary_ofSeconds _) (by decide) hstamps
    (fun _ w hw => by obtain rfl := List.mem_singleton.mp hw; exact ⟨accepted_farEastSunday, hsteady⟩) hdelivers hnone
    fun d hd => by obtain rfl := Option.some.inj (hafter.symm.trans hd); decide +kernel
  have hstranded : patient.breaksDown unmakeable (.ofSeconds 8210266862400) unmakeable.fields = true := by decide +kernel
  exact absurd (hstranded.symm.trans hquiet.stands) (by decide)

end Engine

end SecretRotation
