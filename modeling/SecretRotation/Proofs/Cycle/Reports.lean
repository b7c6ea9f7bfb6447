import SecretRotation.Cycle.Evaluation

/-!
# What a cycle reports and writes

A cycle that goes through has one report for each listed field, in order. What it writes is read off these reports: an
object under the same key and with the same version, in which only the entries of written fields differ.

## Main definitions

* `Engine.Reported`: the report on a field of a cycle that goes through.
* `Engine.Due`: a value is old enough to be replaced, and the gate is open.

## Main results

* `Engine.decide_eq_generate_iff`, `Engine.decide_eq_rotate_iff`: when a field is filled and when it is replaced.
* `Engine.exists_reports_of_evaluate`: the evaluation of an object is read off the reports on its fields.
* `Evaluation.getElem?_entries`: an entry is as it was, or one of the written ones.
-/

namespace SecretRotation

variable {g : Engine} {o : ManagedObject} {now : Instant} {field : String} {r : FieldReport}

/-! ## Decisions -/

namespace Decision

variable {state : FieldState} {minimum : Duration} {gate : Gate}

theorem eq_generate_or_rotate {d : Decision} (h : d.producesMaterial = true) : d = .generate ∨ d = .rotate := by
  cases d with
  | generate => exact Or.inl rfl
  | rotate => exact Or.inr rfl
  | defer wait => cases h
  | skip nextDue => cases h
  | belowMinimum interval minimum => cases h

theorem ofAge_ne_generate {interval : Duration} {baseline : Instant} : ofAge interval baseline gate now ≠ .generate := by
  simp only [ofAge]
  split
  · simp
  · split <;> simp

theorem ofAge_eq_rotate_iff {interval : Duration} {baseline : Instant} :
    ofAge interval baseline gate now = .rotate ↔ ¬ now.elapsed baseline < interval ∧ gate.Open now := by
  simp only [ofAge]
  by_cases hage : now.elapsed baseline < interval
  · simp [hage]
  · by_cases hopen : gate.Open now <;> simp [hage, hopen]

theorem make_eq_generate_iff : make state minimum gate now = .generate ↔ state.hasValue = false := by
  obtain ⟨hasValue, interval, baseline⟩ := state
  cases hasValue with
  | false => simp [make]
  | true =>
    cases interval with
    | none => simp [make]
    | some interval =>
      by_cases hshort : interval < minimum
      · simp [make, hshort]
      · cases baseline with
        | none => simp [make, hshort]
        | some baseline => simp [make, hshort, ofAge_ne_generate]

/-- A field is replaced exactly if its value is old enough, for an interval that is not too short, and the gate is open. -/
theorem make_eq_rotate_iff :
    make state minimum gate now = .rotate ↔ state.hasValue = true ∧ gate.Open now ∧
      ∃ interval baseline, state.interval = some interval ∧ ¬ interval < minimum ∧ state.baseline = some baseline ∧
        ¬ now.elapsed baseline < interval := by
  obtain ⟨hasValue, interval, baseline⟩ := state
  cases hasValue with
  | false => simp [make]
  | true =>
    cases interval with
    | none => simp [make]
    | some interval =>
      by_cases hshort : interval < minimum
      · simp [make, hshort]
      · cases baseline with
        | none => simp [make, hshort]
        | some baseline =>
          simp [make, hshort, ofAge_eq_rotate_iff]
          exact and_comm

end Decision

namespace Engine

/-- The value of a field is old enough for its interval, which is not too short, and the gate is open. -/
structure Due (g : Engine) (o : ManagedObject) (field : String) (now : Instant) : Prop where
  hasValue : o.hasValue field = true
  isOpen : g.config.gate.Open now
  aged : ∃ interval baseline, (g.spec o field).interval = some interval ∧ ¬ interval < g.config.rotation.minimum ∧
    o.baseline? field = some baseline ∧ ¬ now.elapsed baseline < interval

@[simp] theorem spec_field (g : Engine) (o : ManagedObject) (field : String) : (g.spec o field).field = field := rfl

theorem decide_eq_generate_iff : g.decide o field now = .generate ↔ o.hasValue field = false :=
  Decision.make_eq_generate_iff

theorem decide_eq_rotate_iff : g.decide o field now = .rotate ↔ g.Due o field now := by
  rw [decide, Decision.make_eq_rotate_iff]
  exact ⟨fun ⟨hvalue, hopen, haged⟩ => ⟨hvalue, hopen, haged⟩, fun h => ⟨h.hasValue, h.isOpen, h.aged⟩⟩

/-! ## Reports -/

theorem attempt_eq_produced_iff {spec : FieldSpec} {e : Entropy} {material : Material} :
    (g.attempt spec e).1 = .produced material ↔ ∃ rest, g.generator.produce spec e = .ok (material, rest) := by
  rw [attempt]
  cases g.generator.produce spec e with
  | error cause => simp
  | ok generated => simp [Prod.ext_iff]

theorem attempt_eq_failed_iff {spec : FieldSpec} {e : Entropy} {cause : GeneratorError} :
    (g.attempt spec e).1 = .failed cause ↔ g.generator.produce spec e = .error cause := by
  rw [attempt]
  cases g.generator.produce spec e with
  | error cause => simp
  | ok generated => simp

/-- The report on a field as a cycle that goes through makes it. -/
structure Reported (g : Engine) (o : ManagedObject) (now : Instant) (r : FieldReport) : Prop where
  spec : r.spec = g.spec o r.field
  decision : r.decision = g.decide o r.field now
  untouched : r.decision.producesMaterial = false → r.result = .untouched
  attempted : r.decision.producesMaterial = true → ∃ e, r.result = (g.attempt r.spec e).1
  fatal : r.fatal? = none

theorem report_of_producesMaterial (e : Entropy) (h : (g.decide o field now).producesMaterial = true) :
    g.report o now field e =
      (⟨g.spec o field, g.decide o field now, (g.attempt (g.spec o field) e).1⟩, (g.attempt (g.spec o field) e).2) := by
  simp only [report, h, if_true]

theorem report_of_not_producesMaterial (e : Entropy) (h : (g.decide o field now).producesMaterial = false) :
    g.report o now field e = (⟨g.spec o field, g.decide o field now, .untouched⟩, e) := by
  simp only [report, h, Bool.false_eq_true, if_false]

@[simp] theorem field_report (e : Entropy) : (g.report o now field e).1.field = field := by
  simp only [report]
  split <;> rfl

theorem reported_report {e : Entropy} (h : (g.report o now field e).1.fatal? = none) :
    g.Reported o now (g.report o now field e).1 := by
  cases hmaterial : (g.decide o field now).producesMaterial with
  | true =>
    rw [report_of_producesMaterial e hmaterial] at *
    exact ⟨rfl, rfl, by simp [hmaterial], fun _ => ⟨e, rfl⟩, h⟩
  | false =>
    rw [report_of_not_producesMaterial e hmaterial] at *
    exact ⟨rfl, rfl, fun _ => rfl, by simp [hmaterial], h⟩

namespace Reported

theorem producesMaterial (h : g.Reported o now r) (hwritten : r.isWritten = true) :
    r.decision.producesMaterial = true := by
  cases hmaterial : r.decision.producesMaterial with
  | true => rfl
  | false => simp [FieldReport.isWritten, h.untouched hmaterial] at hwritten

theorem generate_or_rotate (h : g.Reported o now r) (hwritten : r.isWritten = true) :
    r.decision = .generate ∧ o.hasValue r.field = false ∨ r.decision = .rotate ∧ g.Due o r.field now := by
  have hdecision := h.decision
  rcases Decision.eq_generate_or_rotate (h.producesMaterial hwritten) with hd | hd
  · exact Or.inl ⟨hd, decide_eq_generate_iff.mp (hdecision.symm.trans hd)⟩
  · exact Or.inr ⟨hd, decide_eq_rotate_iff.mp (hdecision.symm.trans hd)⟩

end Reported

/-- The reports of a cycle that goes through are those on its fields, in order. -/
theorem reported_of_reports {fields : List String} :
    ∀ {e rest : Entropy} {reports : List FieldReport}, g.reports o now fields e = .ok (reports, rest) →
      reports.map FieldReport.field = fields ∧ ∀ r ∈ reports, g.Reported o now r := by
  induction fields with
  | nil =>
    intro e rest reports h
    rw [Engine.reports] at h
    cases h
    simp
  | cons field fields ih =>
    intro e rest reports h
    simp only [Engine.reports] at h
    split at h
    · cases h
    · rename_i hfatal
      split at h
      · rename_i hrest
        cases h
        obtain ⟨hfields, hreported⟩ := ih hrest
        refine ⟨by rw [List.map_cons, field_report, hfields], fun r hr => ?_⟩
        rcases List.mem_cons.mp hr with rfl | hr
        · exact reported_report hfatal
        · exact hreported r hr
      · cases h

theorem exists_reports_of_evaluate {e rest : Entropy} {v : Evaluation} (h : g.evaluate o now e = .ok (v, rest)) :
    ∃ reports, reports.map FieldReport.field = o.fields ∧ (∀ r ∈ reports, g.Reported o now r) ∧
      v = .ofReports g.config.rotation o now reports := by
  rw [evaluate] at h
  split at h
  · rename_i reports rest' hreports
    cases h
    obtain ⟨hfields, hreported⟩ := reported_of_reports hreports
    exact ⟨reports, hfields, hreported, rfl⟩
  · cases h

/-- A cycle that goes through has an outcome for each of its fields, in order, which tells what was decided. -/
theorem outcomes_of_evaluate {e rest : Entropy} {v : Evaluation} (h : g.evaluate o now e = .ok (v, rest)) :
    v.outcomes.map FieldOutcome.field = o.fields ∧ ∀ f ∈ v.outcomes, f.decision = g.decide o f.field now := by
  obtain ⟨reports, hfields, hreported, rfl⟩ := exists_reports_of_evaluate h
  refine ⟨by rw [← hfields]; exact List.map_map, fun f hf => ?_⟩
  obtain ⟨r, hr, rfl⟩ := List.mem_map.mp hf
  exact (hreported r hr).decision

theorem mem_written_iff {reports : List FieldReport} :
    field ∈ Evaluation.written reports ↔ ∃ r ∈ reports, r.isWritten = true ∧ r.field = field := by
  simp [Evaluation.written, and_assoc]

/-- Fields that need no material are not written. -/
theorem not_mem_written {reports : List FieldReport} (hreported : ∀ r ∈ reports, g.Reported o now r)
    (hmaterial : (g.decide o field now).producesMaterial = false) : field ∉ Evaluation.written reports := by
  intro hmem
  obtain ⟨r, hr, hwritten, rfl⟩ := mem_written_iff.mp hmem
  have hmade := (hreported r hr).producesMaterial hwritten
  rw [(hreported r hr).decision, hmaterial] at hmade
  cases hmade

end Engine

/-! ## What is written -/

namespace Evaluation

theorem getElem?_foldl_insert (entries : List (String × SecretBytes)) (data : Entries) (name : String) :
    ((entries.foldl (fun found entry => found.insert entry.1 entry.2) data)[name]? = data[name]? ∧
        ∀ entry ∈ entries, entry.1 ≠ name) ∨
      ∃ entry ∈ entries, entry.1 = name ∧
        (entries.foldl (fun found entry => found.insert entry.1 entry.2) data)[name]? = some entry.2 := by
  induction entries generalizing data with
  | nil => exact Or.inl ⟨rfl, by simp⟩
  | cons entry rest ih =>
    rw [List.foldl_cons]
    rcases ih (data.insert entry.1 entry.2) with ⟨hsame, hne⟩ | ⟨later, hmem, hname, hvalue⟩
    · rw [hsame, Std.ExtTreeMap.getElem?_insert]
      by_cases hentry : entry.1 = name
      · exact Or.inr ⟨entry, List.mem_cons_self, hentry, by simp [hentry]⟩
      · refine Or.inl ⟨by simp [hentry], fun later hlater => ?_⟩
        rcases List.mem_cons.mp hlater with rfl | hlater
        · exact hentry
        · exact hne later hlater
    · exact Or.inr ⟨later, List.mem_cons_of_mem _ hmem, hname, hvalue⟩

theorem getElem?_entries (data : Entries) (reports : List FieldReport) (name : String) :
    ((entries data reports)[name]? = data[name]? ∧ ∀ r ∈ reports, ∀ entry ∈ r.entries, entry.1 ≠ name) ∨
      ∃ r ∈ reports, ∃ entry ∈ r.entries, entry.1 = name ∧ (entries data reports)[name]? = some entry.2 := by
  rcases getElem?_foldl_insert (reports.flatMap FieldReport.entries) data name with ⟨hsame, hne⟩ | h
  · exact Or.inl ⟨hsame, fun r hr entry hentry => hne entry (List.mem_flatMap.mpr ⟨r, hr, hentry⟩)⟩
  · obtain ⟨entry, hmem, hname, hvalue⟩ := h
    obtain ⟨r, hr, hentry⟩ := List.mem_flatMap.mp hmem
    exact Or.inr ⟨r, hr, entry, hentry, hname, hvalue⟩

end Evaluation

theorem FieldReport.exists_produced (h : r.isWritten = true) : ∃ material, r.result = .produced material := by
  cases hresult : r.result with
  | untouched => simp [isWritten, hresult] at h
  | failed cause => simp [isWritten, hresult] at h
  | produced material => exact ⟨material, rfl⟩

/-- The warnings about fields are about replacements. -/
theorem FieldReport.of_warning? {n : Notification} (h : r.warning? = some n) :
    n.severity = .warning ∧ n.reason = .rotationFailed := by
  rw [warning?] at h
  split at h
  · obtain ⟨cause, -, rfl⟩ := Option.map_eq_some_iff.mp h
    exact ⟨rfl, rfl⟩
  · cases h
    exact ⟨rfl, rfl⟩
  · cases h

/-- The entries of a written field stand under its name and beside it. -/
theorem FieldReport.of_mem_entries {entry : String × SecretBytes} (h : entry ∈ r.entries) :
    r.isWritten = true ∧ (entry.1 = r.field ∨ entry.1 = Annotations.publicEntry r.field) := by
  cases hresult : r.result with
  | untouched => simp [entries, hresult] at h
  | failed cause => simp [entries, hresult] at h
  | produced material =>
    refine ⟨by simp [isWritten, hresult], ?_⟩
    simp only [entries, hresult] at h
    cases material with
    | value bytes =>
      obtain rfl := List.mem_singleton.mp h
      exact Or.inl rfl
    | pair key =>
      simp only [Material.entries, List.mem_cons, List.not_mem_nil, or_false] at h
      rcases h with rfl | rfl
      · exact Or.inl rfl
      · exact Or.inr rfl

theorem FieldReport.exists_mem_entries (h : r.isWritten = true) : ∃ entry ∈ r.entries, entry.1 = r.field := by
  obtain ⟨material, hresult⟩ := exists_produced h
  simp only [entries, hresult]
  cases material with
  | value bytes => exact ⟨(r.field, ⟨bytes⟩), List.mem_cons_self, rfl⟩
  | pair key => exact ⟨(r.field, .ofText key.privatePem.expose), List.mem_cons_self, rfl⟩

/-- A written object has its key and its version from the object that was read. -/
theorem Evaluation.of_object_eq_some {policy : RotationPolicy} {reports : List FieldReport} {changed : ManagedObject}
    (h : (ofReports policy o now reports).object = some changed) :
    written reports ≠ [] ∧ changed.key = o.key ∧ changed.version = o.version ∧
      changed.annotations = o.stamped (reports.map FieldReport.field) (written reports) now ∧
      changed.data = entries o.data reports := by
  have h' : written? o now reports = some changed := h
  rw [written?] at h'
  split at h'
  · cases h'
  · rename_i hne
    cases h'
    exact ⟨hne, rfl, rfl, rfl, rfl⟩

theorem Evaluation.isWritten_of_object_eq_none {policy : RotationPolicy} {reports : List FieldReport}
    (h : (ofReports policy o now reports).object = none) : ∀ r ∈ reports, r.isWritten = false := by
  have h' : written? o now reports = none := h
  rw [written?] at h'
  split at h'
  · rename_i hnil
    rw [written, List.map_eq_nil_iff, List.filter_eq_nil_iff] at hnil
    exact fun r hr => Bool.eq_false_iff.mpr (hnil r hr)
  · cases h'

end SecretRotation
