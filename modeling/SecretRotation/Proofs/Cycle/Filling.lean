import SecretRotation.Proofs.Cycle.Breakdown
import SecretRotation.Proofs.Cycle.Quiet
import SecretRotation.Proofs.Reconcile.Sharing

/-!
# Filling fields for the first time

A cycle fills all fields without a value, or it writes nothing. It fails exactly at the first field in order that has no
value and whose settings make no material, with the warnings about the fields before it. All this is told by the object
and the settings alone, whatever the entropy, as long as searches for keys are not given up and the cycle does not break
down.

## Main definitions

* `Engine.Unfillable`: a field has no value, and its settings make none.
* `Engine.foreseenWarning?`: the warning about a field, as its settings let expect it.
* `Engine.FailsFirst`: what is told of a cycle that fails.
* `Engine.Ends`, `Engine.AllOrNothing`: a cycle comes to an end, and fills all fields or changes nothing.

## Main results

* `Engine.reports_cases`: the fields are all reported on, or the first one that cannot be filled ends the cycle.
* `Engine.exists_error_iff`, `Engine.hasValue_of_evaluate`: when a cycle fails, and what holds if it does not.
* `Engine.allOrNothing_iff`: a cycle is all or nothing unless it breaks down.
* `Engine.exists_cycle_without_end`: not all cycles are.
-/

namespace SecretRotation

namespace Engine

variable {g : Engine} {o : ManagedObject} {now : Instant} {e : Entropy} {field : String}

/-- The field has no value, and no material can be had by its settings. -/
def Unfillable (g : Engine) (o : ManagedObject) (field : String) : Prop :=
  o.hasValue field = false ∧ g.generator.refuses (g.spec o field) = true

/-- The warning about a field that is replaced, as its settings let expect it. -/
def foreseenWarning? (g : Engine) (o : ManagedObject) (now : Instant) (field : String) : Option Notification :=
  FieldReport.warning? ⟨g.spec o field, g.decide o field now,
    match g.generator.complaint? (g.spec o field) with
    | some cause => .failed cause
    | none => .untouched⟩

/-- The cycle over some fields fails at the first of them that cannot be filled, with the warnings about those before. -/
structure FailsFirst (g : Engine) (o : ManagedObject) (now : Instant) (fields : List String)
    (failure : GenerationFailure) : Prop where
  unfillable : g.Unfillable o failure.field
  cause : g.generator.complaint? (g.spec o failure.field) = some failure.cause
  first : ∃ before after, fields = before ++ failure.field :: after ∧ (∀ field ∈ before, ¬ g.Unfillable o field) ∧
    failure.warnings = before.filterMap (g.foreseenWarning? o now)

/-! ## One field -/

/-- A field ends the cycle if it has no value and gets none. -/
theorem fatal?_report_eq_some_iff {cause : GeneratorError} :
    (g.report o now field e).1.fatal? = some cause ↔
      o.hasValue field = false ∧ g.generator.produce (g.spec o field) e = .error cause := by
  have hgenerate : g.decide o field now = .generate ↔ o.hasValue field = false := decide_eq_generate_iff
  rw [← hgenerate]
  cases hmaterial : (g.decide o field now).producesMaterial with
  | false =>
    rw [report_of_not_producesMaterial e hmaterial]
    have hdecision : g.decide o field now ≠ .generate := fun h => by simp [h, Decision.producesMaterial] at hmaterial
    simp [FieldReport.fatal?, hdecision]
  | true =>
    rw [report_of_producesMaterial e hmaterial, ← attempt_eq_failed_iff]
    rcases Decision.eq_generate_or_rotate hmaterial with hdecision | hdecision
    · cases hresult : (g.attempt (g.spec o field) e).1 <;> simp [FieldReport.fatal?, FieldReport.cause?, hdecision]
    · simp [FieldReport.fatal?, hdecision]

theorem fatal?_report_eq_some_iff_complaint? (hdelivers : g.generator.Delivers (g.spec o field)) {cause : GeneratorError} :
    (g.report o now field e).1.fatal? = some cause ↔
      o.hasValue field = false ∧ g.generator.complaint? (g.spec o field) = some cause := by
  rw [fatal?_report_eq_some_iff, Generator.produce_eq_error_iff hdelivers]

theorem warning?_report (hdelivers : g.generator.Delivers (g.spec o field)) :
    (g.report o now field e).1.warning? = g.foreseenWarning? o now field := by
  cases hmaterial : (g.decide o field now).producesMaterial with
  | false =>
    rw [report_of_not_producesMaterial e hmaterial, foreseenWarning?]
    cases hdecision : g.decide o field now <;>
      simp_all [FieldReport.warning?, FieldReport.field, Decision.producesMaterial]
  | true =>
    rw [report_of_producesMaterial e hmaterial, foreseenWarning?, attempt]
    cases hproduce : g.generator.produce (g.spec o field) e with
    | error cause => rw [(Generator.produce_eq_error_iff hdelivers).mp hproduce]
    | ok produced =>
      -- Material that was had shows that there is nothing to complain about.
      have hnone : g.generator.complaint? (g.spec o field) = none := by
        refine Option.eq_none_iff_forall_ne_some.mpr fun cause hcause => ?_
        rw [(Generator.produce_eq_error_iff hdelivers).mpr hcause] at hproduce
        cases hproduce
      rw [hnone]
      rfl

theorem unfillable_of_fatal? (hdelivers : g.generator.Delivers (g.spec o field)) {cause : GeneratorError}
    (h : (g.report o now field e).1.fatal? = some cause) : g.Unfillable o field := by
  obtain ⟨hvalue, hcause⟩ := (fatal?_report_eq_some_iff_complaint? hdelivers).mp h
  exact ⟨hvalue, by rw [← Generator.isSome_complaint?, hcause]; rfl⟩

theorem not_unfillable_of_fatal? (hdelivers : g.generator.Delivers (g.spec o field))
    (h : (g.report o now field e).1.fatal? = none) : ¬ g.Unfillable o field := by
  rintro ⟨hvalue, hrefuses⟩
  rw [← Generator.isSome_complaint?] at hrefuses
  obtain ⟨cause, hcause⟩ := Option.isSome_iff_exists.mp hrefuses
  rw [(fatal?_report_eq_some_iff_complaint? hdelivers).mpr ⟨hvalue, hcause⟩] at h
  cases h

/-! ## All fields -/

/-- The fields are all reported on, or the first one that cannot be filled ends the cycle. -/
theorem reports_cases {fields : List String} (hdelivers : ∀ field ∈ fields, g.generator.Delivers (g.spec o field))
    (now : Instant) (e : Entropy) :
    (∃ reports rest, g.reports o now fields e = .ok (reports, rest) ∧ ∀ field ∈ fields, ¬ g.Unfillable o field) ∨
      ∃ failure, g.reports o now fields e = .error failure ∧ g.FailsFirst o now fields failure := by
  induction fields generalizing e with
  | nil => exact .inl ⟨[], e, rfl, by simp⟩
  | cons field fields ih =>
    have hfield := hdelivers field List.mem_cons_self
    simp only [reports]
    cases hfatal : (g.report o now field e).1.fatal? with
    | some cause =>
      have hcause := ((fatal?_report_eq_some_iff_complaint? hfield).mp hfatal).2
      exact .inr ⟨_, rfl, unfillable_of_fatal? hfield hfatal, hcause, [], fields, rfl, by simp, rfl⟩
    | none =>
      -- The field is no obstacle. If a later one is, the warning about this one comes before those about the others.
      have hfillable := not_unfillable_of_fatal? hfield hfatal
      rcases ih (fun f hf => hdelivers f (List.mem_cons_of_mem _ hf)) (g.report o now field e).2 with
        ⟨reports, rest, hreports, hall⟩ | ⟨failure, hreports, hfails⟩
      · simp only [hreports]
        exact .inl ⟨_, rest, rfl, List.forall_mem_cons.mpr ⟨hfillable, hall⟩⟩
      · simp only [hreports]
        obtain ⟨before, after, hsplit, hbefore, hwarnings⟩ := hfails.first
        refine .inr ⟨_, rfl, hfails.unfillable, hfails.cause, field :: before, after, by rw [hsplit, List.cons_append],
          List.forall_mem_cons.mpr ⟨hfillable, hbefore⟩, ?_⟩
        rw [warning?_report hfield, hwarnings]
        cases hwarning : g.foreseenWarning? o now field <;> simp [hwarning]

theorem evaluate_cases (hdelivers : ∀ field ∈ o.fields, g.generator.Delivers (g.spec o field)) (now : Instant)
    (e : Entropy) :
    (∃ v rest, g.evaluate o now e = .ok (v, rest) ∧ ∀ field ∈ o.fields, ¬ g.Unfillable o field) ∨
      ∃ failure, g.evaluate o now e = .error failure ∧ g.FailsFirst o now o.fields failure := by
  rcases reports_cases hdelivers now e with ⟨reports, rest, hreports, hall⟩ | ⟨failure, hreports, hfails⟩
  · exact .inl ⟨_, rest, by rw [evaluate, hreports], hall⟩
  · exact .inr ⟨failure, by rw [evaluate, hreports], hfails⟩

theorem FailsFirst.mem {fields : List String} {failure : GenerationFailure} (h : g.FailsFirst o now fields failure) :
    failure.field ∈ fields := by
  obtain ⟨before, after, hsplit, -⟩ := h.first
  simp [hsplit]

/-- The warnings before a failure are about replacements. -/
theorem FailsFirst.of_mem_warnings {fields : List String} {failure : GenerationFailure}
    (h : g.FailsFirst o now fields failure) :
    ∀ n ∈ failure.warnings, n.severity = .warning ∧ n.reason = .rotationFailed := by
  obtain ⟨before, after, -, -, hwarnings⟩ := h.first
  intro n hn
  rw [hwarnings] at hn
  obtain ⟨field, -, hwarning⟩ := List.mem_filterMap.mp hn
  exact FieldReport.of_warning? hwarning

theorem failsFirst_of_evaluate (hdelivers : ∀ field ∈ o.fields, g.generator.Delivers (g.spec o field))
    {failure : GenerationFailure} (h : g.evaluate o now e = .error failure) : g.FailsFirst o now o.fields failure := by
  rcases evaluate_cases hdelivers now e with ⟨v, rest, hok, -⟩ | ⟨failure', herror, hfails⟩
  · rw [h] at hok
    cases hok
  · rw [h] at herror
    cases herror
    exact hfails

/-- A cycle fails exactly if one of its fields cannot be filled. -/
theorem exists_error_iff (hdelivers : ∀ field ∈ o.fields, g.generator.Delivers (g.spec o field)) (now : Instant)
    (e : Entropy) :
    (∃ failure, g.evaluate o now e = .error failure) ↔ ∃ field ∈ o.fields, g.Unfillable o field := by
  constructor
  · rintro ⟨failure, herror⟩
    have hfails := failsFirst_of_evaluate hdelivers herror
    exact ⟨failure.field, hfails.mem, hfails.unfillable⟩
  · rintro ⟨field, hfield, hunfillable⟩
    rcases evaluate_cases hdelivers now e with ⟨v, rest, -, hfillable⟩ | ⟨failure, herror, -⟩
    · exact absurd hunfillable (hfillable field hfield)
    · exact ⟨failure, herror⟩

theorem exists_ok_of_fillable (hdelivers : ∀ field ∈ o.fields, g.generator.Delivers (g.spec o field))
    (hfillable : ∀ field ∈ o.fields, ¬ g.Unfillable o field) (now : Instant) (e : Entropy) :
    ∃ v rest, g.evaluate o now e = .ok (v, rest) := by
  rcases evaluate_cases hdelivers now e with ⟨v, rest, hok, -⟩ | ⟨failure, -, hfails⟩
  · exact ⟨v, rest, hok⟩
  · exact absurd hfails.unfillable (hfillable _ hfails.mem)

/-- After a cycle that goes through all its fields have values. -/
theorem hasValue_of_evaluate {v : Evaluation} {rest : Entropy} (h : g.evaluate o now e = .ok (v, rest)) :
    ∀ field ∈ o.fields, (v.object.getD o).hasValue field = true := by
  obtain ⟨reports, hfields, hreported, rfl⟩ := exists_reports_of_evaluate h
  intro field hfield
  rw [← hfields] at hfield
  obtain ⟨r, hr, rfl⟩ := List.mem_map.mp hfield
  cases hobject : (Evaluation.ofReports g.config.rotation o now reports).object with
  | none =>
    have hunwritten := Evaluation.isWritten_of_object_eq_none hobject r hr
    rcases (hreported r hr).hasValue_or_isWritten with hvalue | hwritten
    · exact hvalue
    · rw [hunwritten] at hwritten
      cases hwritten
  | some changed =>
    obtain ⟨-, -, -, -, hdata⟩ := Evaluation.of_object_eq_some hobject
    exact hasValue_of_entries hreported hdata hr

/-- A field whose settings make material gets it if it is to get any, and nothing is wrong with it. -/
theorem Reported.outcome_eq_of_fillable {r : FieldReport} (hr : g.Reported o now r) (hdelivers : g.generator.Delivers (g.spec o r.field))
    (hfillable : g.generator.refuses (g.spec o r.field) = false) :
    r.outcome = ⟨r.field, g.decide o r.field now, none⟩ := by
  have hcause : r.cause? = none := by
    cases hmaterial : r.decision.producesMaterial with
    | false => rw [FieldReport.cause?, hr.untouched hmaterial]
    | true =>
      obtain ⟨e, hresult⟩ := hr.attempted hmaterial
      cases hattempt : (g.attempt r.spec e).1 with
      | failed cause =>
        rw [attempt_eq_failed_iff, hr.spec, Generator.produce_eq_error_iff hdelivers] at hattempt
        rw [← Generator.isSome_complaint?, hattempt] at hfillable
        cases hfillable
      | produced material => rw [FieldReport.cause?, hresult, hattempt]
      | untouched => rw [FieldReport.cause?, hresult, hattempt]
  simp only [FieldReport.outcome, hcause, hr.decision]

/-- A cycle writes if some field has no value and the settings of all make material. Nothing is wrong with any of them. -/
theorem exists_evaluate_of_fillable (hdelivers : ∀ field ∈ o.fields, g.generator.Delivers (g.spec o field))
    (hfillable : ∀ field ∈ o.fields, g.generator.refuses (g.spec o field) = false)
    (hmissing : ∃ field ∈ o.fields, o.hasValue field = false) (now : Instant) (e : Entropy) :
    ∃ v rest changed, g.evaluate o now e = .ok (v, rest) ∧ v.object = some changed ∧
      v.outcomes = o.fields.map fun field => ⟨field, g.decide o field now, none⟩ := by
  have hnot : ∀ field ∈ o.fields, ¬ g.Unfillable o field := by
    rintro field hfield ⟨-, hrefuses⟩
    rw [hfillable field hfield] at hrefuses
    cases hrefuses
  obtain ⟨v, rest, hok⟩ := exists_ok_of_fillable hdelivers hnot now e
  obtain ⟨reports, hfields, hreported, rfl⟩ := exists_reports_of_evaluate hok
  have hmem : ∀ r ∈ reports, r.field ∈ o.fields := fun r hr => hfields ▸ List.mem_map_of_mem hr
  cases hobject : (Evaluation.ofReports g.config.rotation o now reports).object with
  | none =>
    -- The report on the field without a value is one of a field that is written.
    obtain ⟨field, hfield, hvalue⟩ := hmissing
    obtain ⟨r, hr, rfl⟩ := List.mem_map.mp (hfields ▸ hfield)
    have hwritten := (hreported r hr).hasValue_or_isWritten.resolve_left (by simp [hvalue])
    rw [Evaluation.isWritten_of_object_eq_none hobject r hr] at hwritten
    cases hwritten
  | some changed =>
    refine ⟨_, rest, changed, hok, hobject, ?_⟩
    rw [← hfields, List.map_map]
    exact List.map_congr_left fun r hr => (hreported r hr).outcome_eq_of_fillable (hdelivers _ (hmem r hr)) (hfillable _ (hmem r hr))

/-- A first cycle fills all fields, if none of them has a value and all can be filled. -/
theorem exists_evaluate_of_empty (hdelivers : ∀ field ∈ o.fields, g.generator.Delivers (g.spec o field))
    (hempty : ∀ field ∈ o.fields, o.hasValue field = false)
    (hfillable : ∀ field ∈ o.fields, g.generator.refuses (g.spec o field) = false) (hne : o.fields ≠ []) (now : Instant)
    (e : Entropy) :
    ∃ v rest changed, g.evaluate o now e = .ok (v, rest) ∧ v.object = some changed ∧
      v.outcomes = o.fields.map fun field => ⟨field, .generate, none⟩ := by
  obtain ⟨field, hfield⟩ := List.exists_mem_of_ne_nil _ hne
  have hmissing : ∃ field ∈ o.fields, o.hasValue field = false := ⟨field, hfield, hempty field hfield⟩
  obtain ⟨v, rest, changed, hok, hobject, houtcomes⟩ := exists_evaluate_of_fillable hdelivers hfillable hmissing now e
  refine ⟨v, rest, changed, hok, hobject, houtcomes.trans (List.map_congr_left fun field hfield => ?_)⟩
  rw [decide_eq_generate_iff.mpr (hempty field hfield)]

/-! ## All or nothing -/

/-- The cycle comes to an end, with an answer. -/
def Ends (g : Engine) (o : ManagedObject) (now : Instant) (e : Entropy)
    (answer : Except GenerationFailure (Evaluation × Entropy)) : Prop :=
  g.breaksDown o now o.fields = false ∧ g.evaluate o now e = answer

/-- The cycle fills all fields without a value, or it fails at the first that cannot be filled, says so and writes
nothing. -/
structure AllOrNothing (g : Engine) (o : ManagedObject) (now : Instant) (e : Entropy) : Prop where
  fails_iff : (∃ failure, g.Ends o now e (.error failure)) ↔ ∃ field ∈ o.fields, g.Unfillable o field
  first : ∀ failure, g.Ends o now e (.error failure) → g.FailsFirst o now o.fields failure
  told : ∀ failure, g.Ends o now e (.error failure) →
    (∀ n ∈ failure.warnings, n.severity = .warning ∧ n.reason = .rotationFailed) ∧
      failure.notifications = failure.warnings ++ [failure.warning] ∧
      failure.warning.severity = .warning ∧ failure.warning.reason = .generationFailed
  unchanged : ∀ failure, g.Ends o now e (.error failure) → ∀ (key : ObjectKey) (s : DryRun), s.store.get key = some o →
    s.now = now → g.reconcile DryRun.backend key e s =
      (.error (.generation failure), e, { s with events := s.events ++ failure.notifications.map (o.key, ·) })
  filled : (∀ field ∈ o.fields, ¬ g.Unfillable o field) → ∃ v rest, g.Ends o now e (.ok (v, rest)) ∧
    ∀ field ∈ o.fields, (v.object.getD o).hasValue field = true

theorem reconcile_of_error {failure : GenerationFailure} {key : ObjectKey} {s : DryRun}
    (h : g.evaluate o s.now e = .error failure) (hkey : s.store.get key = some o) :
    g.reconcile DryRun.backend key e s =
      (.error (.generation failure), e, { s with events := s.events ++ failure.notifications.map (o.key, ·) }) := by
  have hget : DryRun.backend.get key s = (.ok (some o), s) := by simp [DryRun.backend, hkey]
  have hevaluate : g.evaluate o (DryRun.backend.now s) e = .error failure := h
  rw [reconcile_eq_finish DryRun.backend e hget, finish, hevaluate]
  simp only [publishAll_dryRun]

/-- **All or nothing.** Where searches for keys are not given up, a cycle fills all fields without a value or fails at the
first that cannot be filled and writes nothing, exactly if it does not break down. -/
theorem allOrNothing_iff (hdelivers : ∀ field ∈ o.fields, g.generator.Delivers (g.spec o field)) :
    g.AllOrNothing o now e ↔ g.breaksDown o now o.fields = false := by
  constructor
  · intro h
    by_cases hfillable : ∀ field ∈ o.fields, ¬ g.Unfillable o field
    · obtain ⟨v, rest, hends, -⟩ := h.filled hfillable
      exact hends.1
    · obtain ⟨failure, hends⟩ := h.fails_iff.mpr (by simpa using hfillable)
      exact hends.1
  · intro hstands
    have hends : ∀ {answer}, g.Ends o now e answer ↔ g.evaluate o now e = answer := by simp [Ends, hstands]
    refine ⟨?_, fun failure herror => ?_, fun failure herror => ?_, fun failure herror key s hkey hclock => ?_,
      fun hfillable => ?_⟩
    · simp only [hends]
      exact exists_error_iff hdelivers now e
    · exact failsFirst_of_evaluate hdelivers herror.2
    · exact ⟨(failsFirst_of_evaluate hdelivers herror.2).of_mem_warnings, rfl, rfl, rfl⟩
    · subst hclock
      exact reconcile_of_error herror.2 hkey
    · obtain ⟨v, rest, hok⟩ := exists_ok_of_fillable hdelivers hfillable now e
      exact ⟨v, rest, hends.mpr hok, hasValue_of_evaluate hok⟩

/-- An object with bytes to fill, and after them a text. -/
def bytesAndText : ManagedObject :=
  ⟨⟨"default", "db"⟩, none,
    ((∅ : Annotations).insert Annotations.autogenerate "iv,password").insert
      (Annotations.fieldKey Annotations.kind "iv") "bytes", ∅⟩

/-- No charset for texts, and no gate. -/
def withoutCharset : Engine := ⟨default, .standard ""⟩

/-- Without a charset the text fails, and the bytes before it are not written either. -/
theorem allOrNothing_without_charset :
    withoutCharset.AllOrNothing bytesAndText (.ofSeconds 0) ⟨fun _ => 0, 0⟩ ∧
      ∃ failure, withoutCharset.Ends bytesAndText (.ofSeconds 0) ⟨fun _ => 0, 0⟩ (.error failure) := by
  have hfields : bytesAndText.fields = ["iv", "password"] := by decide +kernel
  have hbytes : (withoutCharset.spec bytesAndText "iv").kind = .ok .bytes := by decide +kernel
  have htext : (withoutCharset.spec bytesAndText "password").kind = .ok .string := by decide +kernel
  have hdelivers : ∀ field ∈ bytesAndText.fields,
      withoutCharset.generator.Delivers (withoutCharset.spec bytesAndText field) := by
    intro field hfield
    obtain rfl | rfl : field = "iv" ∨ field = "password" := by simpa [hfields] using hfield
    · exact Generator.delivers_of_not_isKeypair hbytes rfl
    · exact Generator.delivers_of_not_isKeypair htext rfl
  have hall : withoutCharset.AllOrNothing bytesAndText (.ofSeconds 0) ⟨fun _ => 0, 0⟩ :=
    (allOrNothing_iff hdelivers).mpr (by decide +kernel)
  exact ⟨hall, hall.fails_iff.mpr ⟨"password", by simp [hfields], by decide +kernel, by decide +kernel⟩⟩

/-- An object with a field to fill, and an interval whose last second overflows. -/
def overflowing : ManagedObject :=
  ⟨⟨"default", "db"⟩, none,
    ((∅ : Annotations).insert Annotations.autogenerate "password").insert Annotations.rotate
      "18446744073709551615s 1000ms", ∅⟩

/-- Not all cycles are all or nothing: one in which the reader of intervals breaks down does not come to an end. -/
theorem exists_cycle_without_end :
    ¬ ∀ (g : Engine) (o : ManagedObject) (now : Instant) (e : Entropy),
      (∀ field ∈ o.fields, g.generator.Delivers (g.spec o field)) → g.AllOrNothing o now e := by
  intro hall
  have hfields : overflowing.fields = ["password"] := by decide +kernel
  have htext : (ungated.spec overflowing "password").kind = .ok .string := by decide +kernel
  have hdelivers : ∀ field ∈ overflowing.fields, ungated.generator.Delivers (ungated.spec overflowing field) := by
    intro field hfield
    obtain rfl : field = "password" := by simpa [hfields] using hfield
    exact Generator.delivers_of_not_isKeypair htext rfl
  have hfillable : ∀ field ∈ overflowing.fields, ¬ ungated.Unfillable overflowing field := by
    rintro field hfield ⟨-, hrefuses⟩
    obtain rfl : field = "password" := by simpa [hfields] using hfield
    exact absurd hrefuses (by decide +kernel)
  obtain ⟨v, rest, hends, -⟩ := (hall ungated overflowing (.ofSeconds 0) ⟨fun _ => 0, 0⟩ hdelivers).filled hfillable
  exact absurd hends.1 (by decide +kernel)

end Engine

end SecretRotation
