import SecretRotation.Proofs.Annotations
import SecretRotation.Proofs.Cycle.Entries

/-!
# Evaluations as they can be foreseen

Whatever a cycle comes to for a field can be foreseen from a few annotations and from one entry of the object: the rest of
the object, the other fields and the entropy have no say in it. A cycle that goes through is the sum of what is foreseen
for its fields. Only searches for keys that are given up cannot be foreseen.

## Main definitions

* `ManagedObject.AgreeOn`: two objects agree on all that counts for a field.
* `ManagedObject.relisted`: the object with another list of fields.
* `Engine.foreseenOutcome`, `Engine.foreseenWake`: the outcome of a field, and when it wants to be looked at again.
* `Answered`: no search for a key was given up.
* `FailsBySettings`: a cycle did not fail for a search that was given up.
* `Engine.Replaces`: an evaluation puts new material into an entry.
* `Engine.Foreseen`: an evaluation is the sum of what is foreseen for the fields.

## Main results

* `ManagedObject.AgreeOn.foreseenOutcome_eq`: objects that agree on a field let expect the same outcome for it.
* `Engine.foreseen_of_evaluate`: a cycle that goes through is as foreseen.
* `Engine.exists_first_of_evaluate`: a cycle that fails does so at the first field that cannot be filled.
-/

namespace SecretRotation

open Annotations

namespace ManagedObject

variable {o o' : ManagedObject} {field : String}

/-- Two objects agree on the entry of a field, on its annotations and on those of the object that count for it. -/
structure AgreeOn (o o' : ManagedObject) (field : String) : Prop where
  entry : o'.data[field]? = o.data[field]?
  shared : ∀ key ∈ perField, o'.annotations[key]? = o.annotations[key]?
  own : ∀ key ∈ perField, o'.annotations[fieldKey key field]? = o.annotations[fieldKey key field]?

namespace AgreeOn

variable (h : o.AgreeOn o' field)

include h

theorem candidates_eq {base : String} (hbase : base ∈ perField) :
    candidates o'.annotations base field = candidates o.annotations base field := by
  rw [candidates, candidates, value?, value?, value?, value?, h.shared base hbase, h.own base hbase]

theorem spec_eq (g : Engine) : g.spec o' field = g.spec o field :=
  FieldSpec.resolve_congr _ (h.candidates_eq (by decide)) (h.candidates_eq (by decide)) (h.candidates_eq (by decide))
    (h.candidates_eq (by decide))

theorem intervalBreaks_eq : FieldSpec.intervalBreaks o'.annotations field = FieldSpec.intervalBreaks o.annotations field :=
  FieldSpec.intervalBreaks_congr (h.candidates_eq (by decide))

theorem hasValue_eq : o'.hasValue field = o.hasValue field := by rw [hasValue, hasValue, h.entry]

theorem stamp?_eq : o'.stamp? = o.stamp? := by
  rw [stamp?, stamp?, annotation?, annotation?, value?, value?, h.shared generatedAt (by decide)]

theorem fieldStamp?_eq : o'.fieldStamp? field = o.fieldStamp? field := fieldStamp?_congr (h.own generatedAt (by decide))

theorem baseline?_eq : o'.baseline? field = o.baseline? field := by
  rw [baseline?, baseline?, h.fieldStamp?_eq, h.stamp?_eq]

theorem decide_eq (g : Engine) (now : Instant) : g.decide o' field now = g.decide o field now := by
  simp only [Engine.decide, Engine.state, Engine.spec_field, h.spec_eq, h.hasValue_eq, h.baseline?_eq]

theorem breaksDownAt_eq (g : Engine) (now : Instant) : g.breaksDownAt o' now field = g.breaksDownAt o now field := by
  simp only [Engine.breaksDownAt, h.spec_eq, h.decide_eq, h.intervalBreaks_eq, Engine.strandedAt_congr (h.decide_eq g now)]

theorem unfillable_iff (g : Engine) : g.Unfillable o' field ↔ g.Unfillable o field := by
  rw [Engine.Unfillable, Engine.Unfillable, h.hasValue_eq, h.spec_eq]

end AgreeOn

/-- The object with another list of fields. -/
def relisted (o : ManagedObject) (list : String) : ManagedObject :=
  { o with annotations := o.annotations.insert autogenerate list }

theorem getElem?_relisted {key list : String} (h : key ≠ autogenerate) :
    (o.relisted list).annotations[key]? = o.annotations[key]? := by
  rw [relisted, Std.ExtTreeMap.getElem?_insert]
  simp [h.symm]

theorem fields_relisted (o : ManagedObject) (list : String) : (o.relisted list).fields = fieldNames list := by
  have hkey : (o.relisted list).annotations[autogenerate]? = some list := by simp [relisted]
  rw [fields, annotation?, value?, hkey]
  by_cases hempty : list = ""
  · subst hempty
    rfl
  · simp [Option.filter, hempty]

theorem agreeOn_relisted (o : ManagedObject) (list field : String) : o.AgreeOn (o.relisted list) field :=
  ⟨rfl, fun _ hkey => getElem?_relisted (ne_autogenerate hkey),
    fun _ hkey => getElem?_relisted (fieldKey_ne_autogenerate hkey field)⟩

/-- With only one of its fields an object has exactly this one. -/
theorem fields_relisted_of_mem (h : field ∈ o.fields) : (o.relisted field).fields = [field] := by
  rw [fields_relisted]
  cases hlist : o.annotation? autogenerate with
  | none => simp [fields, hlist] at h
  | some list =>
    rw [fields, hlist] at h
    exact fieldNames_of_mem h

end ManagedObject

/-- No search for a key was given up, as far as the answer shows. -/
structure Answered (answer : Except GenerationFailure (Evaluation × Entropy)) : Prop where
  outcomes : ∀ v rest, answer = .ok (v, rest) → ∀ f ∈ v.outcomes, ∀ algorithm, f.error ≠ some (.keySearchFailed algorithm)
  failure : ∀ failure, answer = .error failure → ∀ algorithm, failure.cause ≠ .keySearchFailed algorithm

/-- If the cycle failed, it was for the settings of a field, and not for a search for a key that was given up. -/
def FailsBySettings (answer : Except GenerationFailure (Evaluation × Entropy)) : Prop :=
  ∀ failure, answer = .error failure → ∀ algorithm, failure.cause ≠ .keySearchFailed algorithm

/-- When a field wants to be looked at again, as its outcome tells. -/
def FieldOutcome.wake (minimum : Duration) (interval : Option Duration) (f : FieldOutcome) : Option Duration :=
  match f.decision with
  | .generate => interval.filter (minimum ≤ ·)
  | .rotate => if f.error.isSome then some minimum else interval.filter (minimum ≤ ·)
  | .defer wait => some wait
  | .skip nextDue => nextDue
  | .belowMinimum .. => none

theorem FieldReport.wake_eq (r : FieldReport) (minimum : Duration) :
    r.wake minimum = r.outcome.wake minimum r.spec.interval := by
  rw [wake, FieldOutcome.wake, outcome]
  cases r.decision with
  | rotate => cases hresult : r.result <;> simp [cause?, hresult]
  | _ => rfl

namespace Engine

variable {g : Engine} {o o' : ManagedObject} {now : Instant} {e rest : Entropy} {v : Evaluation} {field name : String}
  {r : FieldReport}

/-- The outcome of a field, as the object lets expect it. -/
def foreseenOutcome (g : Engine) (o : ManagedObject) (now : Instant) (field : String) : FieldOutcome :=
  ⟨field, g.decide o field now,
    if (g.decide o field now).producesMaterial then g.generator.complaint? (g.spec o field) else none⟩

/-- When a field wants to be looked at again, as the object lets expect it. -/
def foreseenWake (g : Engine) (o : ManagedObject) (now : Instant) (field : String) : Option Duration :=
  (g.foreseenOutcome o now field).wake g.config.rotation.minimum (g.spec o field).interval

/-- The entry of a name holds material that the evaluation has made for one of its fields. -/
def Replaces (g : Engine) (o : ManagedObject) (v : Evaluation) (name : String) : Prop :=
  ∃ changed, v.object = some changed ∧ ∃ f ∈ v.outcomes, f.GotMaterial ∧ ∃ material value, g.Made o f.field material ∧
    (name, value) ∈ material.entries f.field ∧ changed.data[name]? = some value

/-- An evaluation is the sum of what is foreseen for the fields. -/
structure Foreseen (g : Engine) (o : ManagedObject) (now : Instant) (v : Evaluation) : Prop where
  outcomes : v.outcomes = o.fields.map (g.foreseenOutcome o now)
  requeueAfter : v.requeueAfter = Wake.earliest (o.fields.map (g.foreseenWake o now))
  object : v.object.isSome ↔ ∃ field ∈ o.fields, (g.foreseenOutcome o now field).GotMaterial
  replaced : ∀ name, g.Replaces o v name ↔ ∃ field ∈ o.fields, g.Fills o (g.foreseenOutcome o now field) name
  kept : ∀ changed, v.object = some changed → ∀ name, ¬ g.Replaces o v name → changed.data[name]? = o.data[name]?
  stamped : ∀ changed, v.object = some changed → ∃ written, changed.annotations = o.stamped o.fields written now ∧
    ∀ field, field ∈ written ↔ field ∈ o.fields ∧ (g.foreseenOutcome o now field).GotMaterial

end Engine

/-! ## Agreement -/

namespace ManagedObject.AgreeOn

variable {o o' : ManagedObject} {field : String} (h : o.AgreeOn o' field)

include h

/-- Objects that agree on a field let expect the same outcome for it. -/
theorem foreseenOutcome_eq (g : Engine) (now : Instant) : g.foreseenOutcome o' now field = g.foreseenOutcome o now field := by
  simp only [Engine.foreseenOutcome, h.decide_eq, h.spec_eq]

theorem foreseenWake_eq (g : Engine) (now : Instant) : g.foreseenWake o' now field = g.foreseenWake o now field := by
  simp only [Engine.foreseenWake, h.foreseenOutcome_eq, h.spec_eq]

theorem fills_foreseen_iff (g : Engine) (now : Instant) (name : String) :
    g.Fills o' (g.foreseenOutcome o' now field) name ↔ g.Fills o (g.foreseenOutcome o now field) name := by
  rw [h.foreseenOutcome_eq]
  simp only [Engine.Fills, Engine.MakesPair, show (g.foreseenOutcome o now field).field = field from rfl, h.spec_eq]

end ManagedObject.AgreeOn

namespace Engine

variable {g : Engine} {o : ManagedObject} {now : Instant} {e rest : Entropy} {v : Evaluation} {field name : String}
  {r : FieldReport} {reports : List FieldReport}

/-! ## Reports -/

theorem Reported.outcome_eq (hr : g.Reported o now r)
    (hsearch : ∀ algorithm, r.outcome.error ≠ some (.keySearchFailed algorithm)) :
    r.outcome = g.foreseenOutcome o now r.field := by
  have herror : r.cause? = if r.decision.producesMaterial then g.generator.complaint? (g.spec o r.field) else none := by
    cases hmaterial : r.decision.producesMaterial with
    | false => simp [FieldReport.cause?, hr.untouched hmaterial]
    | true =>
      obtain ⟨e, he⟩ := hr.attempted hmaterial
      rw [hr.spec, attempt] at he
      rcases g.generator.produce_cases (g.spec o r.field) e with
        ⟨cause, hcomplaint, hproduce⟩ | ⟨hnone, ⟨made, hproduce⟩ | ⟨algorithm, hproduce⟩⟩
      · simp [FieldReport.cause?, he, hproduce, hcomplaint]
      · simp [FieldReport.cause?, he, hproduce, hnone]
      · exact absurd (by simp [FieldReport.outcome, FieldReport.cause?, he, hproduce]) (hsearch algorithm)
  rw [FieldReport.outcome, foreseenOutcome, herror, hr.decision]

/-- A cycle that goes through has met no field that cannot be filled. -/
theorem Reported.not_unfillable (hr : g.Reported o now r) : ¬ g.Unfillable o r.field := by
  rintro ⟨hempty, hrefuses⟩
  have hwritten := hr.hasValue_or_isWritten.resolve_left (by simp [hempty])
  obtain ⟨e, rest, material, hproduce, -⟩ := hr.exists_produce hwritten
  obtain ⟨cause, hcause⟩ := Generator.exists_error_of_refuses hrefuses e
  rw [hr.spec, hcause] at hproduce
  cases hproduce

theorem isSome_object_iff {policy : RotationPolicy} (hreported : ∀ r ∈ reports, g.Reported o now r) :
    (Evaluation.ofReports policy o now reports).object.isSome ↔ ∃ r ∈ reports, r.outcome.GotMaterial := by
  constructor
  · intro hsome
    obtain ⟨changed, hobject⟩ := Option.isSome_iff_exists.mp hsome
    obtain ⟨hne, -⟩ := Evaluation.of_object_eq_some hobject
    obtain ⟨field, hfield⟩ := List.exists_mem_of_ne_nil _ hne
    obtain ⟨r, hr, hwritten, -⟩ := mem_written_iff.mp hfield
    exact ⟨r, hr, (hreported r hr).isWritten_iff.mp hwritten⟩
  · rintro ⟨r, hr, hgot⟩
    rw [Option.isSome_iff_ne_none]
    intro hnone
    have hwritten := (hreported r hr).isWritten_iff.mpr hgot
    rw [Evaluation.isWritten_of_object_eq_none hnone r hr] at hwritten
    cases hwritten

/-- An evaluation replaces the entries that its outcomes fill. -/
theorem replaces_iff (h : g.evaluate o now e = .ok (v, rest)) :
    g.Replaces o v name ↔ ∃ f ∈ v.outcomes, g.Fills o f name := by
  constructor
  · rintro ⟨-, -, f, hf, hgot, material, value, hmade, hentry, -⟩
    exact ⟨f, hf, hgot, hmade.exists_mem_entries_iff.mp ⟨value, hentry⟩⟩
  · rintro ⟨f, hf, hfills⟩
    obtain ⟨reports, -, hreported, rfl⟩ := exists_reports_of_evaluate h
    obtain ⟨r, hr, rfl⟩ := List.mem_map.mp hf
    obtain ⟨changed, hobject⟩ := Option.isSome_iff_exists.mp ((isSome_object_iff hreported).mpr ⟨r, hr, hfills.1⟩)
    obtain ⟨-, -, -, -, hdata⟩ := Evaluation.of_object_eq_some hobject
    -- The entry is filled by some report, though perhaps by another one that comes later.
    rcases Evaluation.getElem?_entries o.data reports name with ⟨-, hnone⟩ | ⟨r', hr', entry, hentry, rfl, hvalue⟩
    · obtain ⟨value, hentry⟩ := (hreported r hr).fills_iff.mp hfills
      exact absurd rfl (hnone r hr _ hentry)
    · have hgot := (hreported r' hr').isWritten_iff.mp (FieldReport.of_mem_entries hentry).1
      obtain ⟨material, hmade, hentries⟩ := (hreported r' hr').exists_made hgot
      exact ⟨changed, hobject, r'.outcome, List.mem_map_of_mem hr', hgot, material, entry.2, hmade, hentries ▸ hentry,
        hdata ▸ hvalue⟩

/-! ## Cycles -/

/-- A cycle that goes through is as foreseen. -/
theorem foreseen_of_evaluate (h : g.evaluate o now e = .ok (v, rest)) (hanswered : Answered (g.evaluate o now e)) :
    g.Foreseen o now v := by
  have hsearch := hanswered.outcomes v rest h
  have hreplaces : ∀ name, g.Replaces o v name ↔ ∃ f ∈ v.outcomes, g.Fills o f name := fun name => replaces_iff h
  obtain ⟨reports, hfields, hreported, rfl⟩ := exists_reports_of_evaluate h
  have houtcome : ∀ r ∈ reports, r.outcome = g.foreseenOutcome o now r.field := fun r hr =>
    (hreported r hr).outcome_eq (hsearch r.outcome (List.mem_map_of_mem hr))
  have houtcomes : reports.map FieldReport.outcome = o.fields.map (g.foreseenOutcome o now) := by
    rw [← hfields, List.map_map]
    exact List.map_congr_left houtcome
  have hwake : ∀ r ∈ reports, r.wake g.config.rotation.minimum = g.foreseenWake o now r.field := fun r hr => by
    rw [r.wake_eq, houtcome r hr, (hreported r hr).spec, foreseenWake]
  have hfills : ∀ name, g.Replaces o (Evaluation.ofReports g.config.rotation o now reports) name ↔
      ∃ field ∈ o.fields, g.Fills o (g.foreseenOutcome o now field) name := fun name => by
    rw [hreplaces name, show (Evaluation.ofReports g.config.rotation o now reports).outcomes = _ from houtcomes]
    simp only [List.mem_map, exists_exists_and_eq_and]
  refine ⟨houtcomes, ?_, ?_, hfills, fun changed hobject name hnot => ?_, fun changed hobject => ?_⟩
  · show Wake.earliest (reports.map _) = _
    rw [← hfields, List.map_map]
    exact congrArg Wake.earliest (List.map_congr_left hwake)
  · simp only [isSome_object_iff hreported, ← hfields, List.mem_map, exists_exists_and_eq_and]
    exact exists_congr fun r => and_congr_right fun hr => by rw [houtcome r hr]
  · obtain ⟨-, -, -, -, hdata⟩ := Evaluation.of_object_eq_some hobject
    rw [hdata]
    refine getElem?_entries_of_not_fills hreported (fun r hr hfill => hnot ?_) _
    exact (hreplaces name).mpr ⟨r.outcome, List.mem_map_of_mem hr, hfill⟩
  · obtain ⟨-, -, -, hannotations, -⟩ := Evaluation.of_object_eq_some hobject
    refine ⟨Evaluation.written reports, hfields ▸ hannotations, fun field => ?_⟩
    rw [mem_written_iff, ← hfields, List.mem_map]
    constructor
    · rintro ⟨r, hr, hwritten, rfl⟩
      exact ⟨⟨r, hr, rfl⟩, houtcome r hr ▸ (hreported r hr).isWritten_iff.mp hwritten⟩
    · rintro ⟨⟨r, hr, rfl⟩, hgot⟩
      exact ⟨r, hr, (hreported r hr).isWritten_iff.mpr (houtcome r hr ▸ hgot), rfl⟩

theorem exists_split_of_reports {fields : List String} {failure : GenerationFailure}
    (h : g.reports o now fields e = .error failure) (hsearch : ∀ algorithm, failure.cause ≠ .keySearchFailed algorithm) :
    ∃ before after, fields = before ++ failure.field :: after ∧ (∀ field ∈ before, ¬ g.Unfillable o field) ∧
      o.hasValue failure.field = false ∧ g.generator.complaint? (g.spec o failure.field) = some failure.cause := by
  induction fields generalizing e failure with
  | nil => cases h
  | cons field fields ih =>
    simp only [reports] at h
    cases hfatal : (g.report o now field e).1.fatal? with
    | some cause =>
      simp only [hfatal] at h
      cases h
      obtain ⟨hempty, hproduce⟩ := fatal?_report_eq_some_iff.mp hfatal
      exact ⟨[], fields, rfl, by simp, hempty, Generator.complaint?_of_produce_eq_error hproduce hsearch⟩
    | none =>
      simp only [hfatal] at h
      have hfillable : ¬ g.Unfillable o field := by
        simpa using (reported_report hfatal).not_unfillable
      split at h
      · cases h
      · rename_i later hlater
        cases h
        obtain ⟨before, after, rfl, hbefore, hrest⟩ := ih hlater hsearch
        exact ⟨field :: before, after, rfl, List.forall_mem_cons.mpr ⟨hfillable, hbefore⟩, hrest⟩

/-- A cycle that fails does so at the first field that cannot be filled, for the complaint about its settings. -/
theorem exists_first_of_evaluate {failure : GenerationFailure} (h : g.evaluate o now e = .error failure)
    (hsearch : ∀ algorithm, failure.cause ≠ .keySearchFailed algorithm) :
    ∃ before after, o.fields = before ++ failure.field :: after ∧ (∀ field ∈ before, ¬ g.Unfillable o field) ∧
      o.hasValue failure.field = false ∧ g.generator.complaint? (g.spec o failure.field) = some failure.cause := by
  rw [evaluate] at h
  split at h
  · cases h
  · rename_i hreports
    cases h
    exact exists_split_of_reports hreports hsearch

/-- This field is a listed one without a value. -/
theorem complaint?_of_evaluate {failure : GenerationFailure} (h : g.evaluate o now e = .error failure)
    (hsearch : ∀ algorithm, failure.cause ≠ .keySearchFailed algorithm) :
    failure.field ∈ o.fields ∧ o.hasValue failure.field = false ∧
      g.generator.complaint? (g.spec o failure.field) = some failure.cause := by
  obtain ⟨before, after, hsplit, -, hempty, hcomplaint⟩ := exists_first_of_evaluate h hsearch
  exact ⟨by simp [hsplit], hempty, hcomplaint⟩

theorem not_unfillable_of_evaluate (h : g.evaluate o now e = .ok (v, rest)) : ∀ field ∈ o.fields, ¬ g.Unfillable o field := by
  obtain ⟨reports, hfields, hreported, -⟩ := exists_reports_of_evaluate h
  intro field hfield
  obtain ⟨r, hr, rfl⟩ := List.mem_map.mp (hfields ▸ hfield)
  exact (hreported r hr).not_unfillable

theorem Reported.exists_produce_eq_error (hr : g.Reported o now r) {cause : GeneratorError}
    (h : r.outcome.error = some cause) : ∃ e, g.generator.produce (g.spec o r.field) e = .error cause := by
  have hresult : r.result = .failed cause := by
    cases hresult : r.result <;> simp_all [FieldReport.outcome, FieldReport.cause?]
  cases hmaterial : r.decision.producesMaterial with
  | false =>
    rw [hr.untouched hmaterial] at hresult
    cases hresult
  | true =>
    obtain ⟨e, he⟩ := hr.attempted hmaterial
    exact ⟨e, attempt_eq_failed_iff.mp (by rw [← hr.spec, ← he, hresult])⟩

/-- Texts are not searched for. -/
theorem delivers_of_string (h : ∀ field ∈ o.fields, (g.spec o field).kind = .ok .string) :
    ∀ field ∈ o.fields, g.generator.Delivers (g.spec o field) := fun field hfield =>
  Generator.delivers_of_not_isKeypair (h field hfield) rfl

/-- Where searches for keys are not given up, all answers show it. -/
theorem answered_of_delivers (hdelivers : ∀ field ∈ o.fields, g.generator.Delivers (g.spec o field)) :
    Answered (g.evaluate o now e) where
  outcomes v rest heval f hf algorithm herror := by
    obtain ⟨reports, hfields, hreported, rfl⟩ := exists_reports_of_evaluate heval
    obtain ⟨r, hr, rfl⟩ := List.mem_map.mp hf
    obtain ⟨e', hproduce⟩ := (hreported r hr).exists_produce_eq_error herror
    exact hdelivers r.field (hfields ▸ List.mem_map_of_mem hr) e' algorithm hproduce
  failure failure heval algorithm hsearch := by
    have hfails := failsFirst_of_evaluate hdelivers heval
    have hdelivered := hdelivers failure.field hfails.mem
    exact hdelivered e algorithm ((Generator.produce_eq_error_iff hdelivered).mpr (hsearch ▸ hfails.cause))

end Engine

end SecretRotation
