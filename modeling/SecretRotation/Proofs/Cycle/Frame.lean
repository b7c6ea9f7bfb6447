import SecretRotation.Proofs.Cycle.Foreseen

/-!
# What a cycle changes of an object

A cycle that leads to an object changes it in few places. Of the annotations only stamps move, so that all settings are read
as before. No entry goes away; one that differs belongs to a field with material, as the field's own or as its public entry,
and holds just what the last such field got.

## Main definitions

* `Engine.entropyAfter`, `Engine.Gets`: what a cycle has left after some fields, and the material that the next one gets.
* `Engine.Framed`: how the object that a cycle leads to differs from the one that was read.

## Main results

* `ManagedObject.exists_of_getElem?_stamped_ne`: the annotations that a write may change.
* `Engine.eq_report_of_split`: each report is made with the entropy that the ones before it have left.
* `Engine.framed_of_evaluate`: which cycles lead to an object, and how it differs.
-/

namespace SecretRotation

open Annotations

/-! ## Annotations -/

namespace ManagedObject

variable {o : ManagedObject} {fields written : List String} {now : Instant} {key : String}

theorem getElem?_pinned_of_ne (hne : ∀ field ∈ fields, fieldKey generatedAt field ≠ key) :
    (o.pinned fields written)[key]? = o.annotations[key]? := by
  rw [pinned]
  cases o.stamp? with
  | none => rfl
  | some previous => exact getElem?_stampFields_of_ne fun field hfield => hne field (List.mem_filter.mp hfield).1

/-- A write changes no annotation but the stamp of the object and those of its fields. -/
theorem exists_of_getElem?_stamped_ne (hwritten : ∀ field ∈ written, field ∈ fields)
    (h : (o.stamped fields written now)[key]? ≠ o.annotations[key]?) :
    key = generatedAt ∨ ∃ field ∈ fields, key = fieldKey generatedAt field := by
  by_contra! hnot
  obtain ⟨hshared, hfields⟩ := hnot
  have hne : ∀ field ∈ fields, fieldKey generatedAt field ≠ key := fun field hfield => (hfields field hfield).symm
  refine h ?_
  rw [getElem?_stamped_of_ne hshared, getElem?_stampFields_of_ne fun field hfield => hne field (hwritten field hfield),
    getElem?_pinned_of_ne hne]

end ManagedObject

namespace Engine

variable {g : Engine} {o : ManagedObject} {now : Instant} {e rest : Entropy} {v : Evaluation}
  {reports before after : List FieldReport} {r : FieldReport}

/-! ## Material in its turn -/

/-- The entropy that a cycle has left after some fields. -/
def entropyAfter (g : Engine) (o : ManagedObject) (now : Instant) (fields : List String) (e : Entropy) : Entropy :=
  fields.foldl (fun e field => (g.report o now field e).2) e

/-- The material that a field gets in a cycle, after some others. -/
def Gets (g : Engine) (o : ManagedObject) (now : Instant) (e : Entropy) (before : List String) (field : String)
    (material : Material) : Prop :=
  ∃ rest, g.generator.produce (g.spec o field) (g.entropyAfter o now before e) = .ok (material, rest)

/-- Each report is made in its turn, with the entropy that the reports before it have left. -/
theorem eq_report_of_split {fields : List String} (h : g.reports o now fields e = .ok (before ++ r :: after, rest)) :
    r = (g.report o now r.field (g.entropyAfter o now (before.map FieldReport.field) e)).1 := by
  induction fields generalizing e before with
  | nil => simp [Engine.reports] at h
  | cons field fields ih =>
    simp only [Engine.reports] at h
    split at h
    · cases h
    · split at h
      · rename_i others rest' hothers
        simp only [Except.ok.injEq, Prod.mk.injEq] at h
        obtain ⟨hsplit, rfl⟩ := h
        cases before with
        | nil =>
          obtain ⟨rfl, -⟩ := List.cons_eq_cons.mp hsplit
          rw [List.map_nil, entropyAfter, List.foldl_nil, field_report]
        | cons first before =>
          obtain ⟨rfl, rfl⟩ := List.cons_eq_cons.mp hsplit
          rw [List.map_cons, field_report, entropyAfter, List.foldl_cons]
          exact ih hothers
      · cases h

/-- A report with material has it from the settings of its field, with the entropy that it was made with. -/
theorem exists_produce_of_report {field : String} (h : (g.report o now field e).1.isWritten = true) :
    ∃ material rest, g.generator.produce (g.spec o field) e = .ok (material, rest) ∧
      (g.report o now field e).1.entries = material.entries field := by
  cases hmaterial : (g.decide o field now).producesMaterial with
  | false =>
    rw [report_of_not_producesMaterial e hmaterial] at h
    cases h
  | true =>
    obtain ⟨material, hresult⟩ := FieldReport.exists_produced h
    obtain ⟨rest, hproduce⟩ : ∃ rest, g.generator.produce (g.spec o field) e = .ok (material, rest) := by
      rw [report_of_producesMaterial e hmaterial] at hresult
      exact attempt_eq_produced_iff.mp hresult
    exact ⟨material, rest, hproduce, by simp only [FieldReport.entries, hresult, field_report]⟩

/-! ## The frame -/

/-- An object differs from the one that a cycle began with only as the outcomes tell: in stamps, and in the entries of fields
with material. -/
structure Framed (g : Engine) (o : ManagedObject) (now : Instant) (e : Entropy) (outcomes : List FieldOutcome)
    (changed : ManagedObject) : Prop where
  key : changed.key = o.key
  version : changed.version = o.version
  annotations : ∀ key, changed.annotations[key]? ≠ o.annotations[key]? →
    key = generatedAt ∨ ∃ field ∈ o.fields, key = fieldKey generatedAt field
  fields : changed.fields = o.fields
  specs : ∀ field, g.spec changed field = g.spec o field
  held : ∀ name, name ∈ o.data → name ∈ changed.data
  differs : ∀ name, changed.data[name]? ≠ o.data[name]? → ∃ f ∈ outcomes, g.Fills o f name
  last : ∀ before f after name, outcomes = before ++ f :: after → g.Fills o f name → (∀ f' ∈ after, ¬ g.Fills o f' name) →
    ∃ material value, g.Gets o now e (before.map FieldOutcome.field) f.field material ∧
      (name, value) ∈ material.entries f.field ∧ changed.data[name]? = some value

theorem mem_entries_of_mem (data : Entries) (reports : List FieldReport) {name : String} (h : name ∈ data) :
    name ∈ Evaluation.entries data reports := by
  rw [Std.ExtTreeMap.mem_iff_isSome_getElem?] at h ⊢
  rcases Evaluation.getElem?_entries data reports name with ⟨hsame, -⟩ | ⟨r, -, entry, -, -, hvalue⟩
  · rw [hsame, h]
  · rw [hvalue, Option.isSome_some]

/-- The last report that fills an entry has its own material there, made in its turn. -/
theorem exists_gets_of_last {fields : List String} {name : String}
    (h : g.reports o now fields e = .ok (before ++ r :: after, rest)) (hfills : g.Fills o r.outcome name)
    (hlater : ∀ r' ∈ after, ¬ g.Fills o r'.outcome name) (data : Entries) :
    ∃ material value, g.Gets o now e (before.map FieldReport.field) r.field material ∧
      (name, value) ∈ material.entries r.field ∧ (Evaluation.entries data (before ++ r :: after))[name]? = some value := by
  have hreported := (reported_of_reports h).2
  have hr := hreported r (by simp)
  have hturn := eq_report_of_split h
  have hwritten := hr.isWritten_iff.mpr hfills.1
  rw [hturn] at hwritten
  obtain ⟨material, left, hproduce, hentries⟩ := exists_produce_of_report hwritten
  rw [← hturn] at hentries
  obtain ⟨value, hentry⟩ := hr.fills_iff.mp hfills
  refine ⟨material, value, ⟨left, hproduce⟩, hentries ▸ hentry, ?_⟩
  refine Evaluation.getElem?_entries_of_last hentry (fun r' hr' entry hentry' hname => ?_) data
  subst hname
  exact hlater r' hr' ((hreported r' (by simp [hr'])).fills_iff.mpr ⟨entry.2, hentry'⟩)

/-- **The frame of a cycle.** A cycle that goes through leads to an object exactly if one of its fields got material. This
object has the key, the version, the list of fields and all settings of the one that was read, and only stamps of it and of
its fields differ among the annotations. It has all entries that were there before. One that differs is that of a field
with material, or its public entry if this is a key pair, and each such entry holds the material of the last field that
filled it. -/
theorem framed_of_evaluate (h : g.evaluate o now e = .ok (v, rest)) :
    v.outcomes.map FieldOutcome.field = o.fields ∧
      (v.object.isSome = true ↔ ∃ f ∈ v.outcomes, f.GotMaterial) ∧
      ∀ changed, v.object = some changed → g.Framed o now e v.outcomes changed := by
  rw [evaluate] at h
  split at h
  case h_2 => cases h
  rename_i reports rest' hreports
  cases h
  obtain ⟨hfields, hreported⟩ := reported_of_reports hreports
  refine ⟨by rw [← hfields]; exact List.map_map, ?_, fun changed hobject => ?_⟩
  · have houtcomes : (Evaluation.ofReports g.config.rotation o now reports).outcomes = reports.map FieldReport.outcome := rfl
    simp only [isSome_object_iff hreported, houtcomes, List.mem_map, exists_exists_and_eq_and]
  obtain ⟨-, hkey, hversion, hannotations, hdata⟩ := Evaluation.of_object_eq_some hobject
  have hsame := ManagedObject.sameSettings_of_stamped hannotations
  refine ⟨hkey, hversion, fun key hne => ?_, hsame.fields_eq, hsame.resolve_eq g.config.defaults, fun name hname => ?_,
    fun name hne => ?_, ?_⟩
  · rw [hannotations, hfields] at hne
    refine ManagedObject.exists_of_getElem?_stamped_ne (fun field hfield => ?_) hne
    obtain ⟨r, hr, -, rfl⟩ := mem_written_iff.mp hfield
    exact hfields ▸ List.mem_map_of_mem hr
  · rw [hdata]
    exact mem_entries_of_mem o.data reports hname
  · by_contra! hnone
    refine hne ?_
    rw [hdata]
    exact getElem?_entries_of_not_fills hreported (fun r hr => hnone _ (List.mem_map_of_mem hr)) _
  · intro before f after name hsplit hfills hlater
    -- The outcomes are those of the reports, so that the reports split where the outcomes do.
    have houtcomes : reports.map FieldReport.outcome = before ++ f :: after := hsplit
    obtain ⟨earlier, these, rfl, rfl, hthese⟩ := List.map_eq_append_iff.mp houtcomes
    obtain ⟨r, later, rfl, rfl, rfl⟩ := List.map_eq_cons_iff.mp hthese
    rw [hdata, List.map_map]
    exact exists_gets_of_last hreports hfills (fun r' hr' => hlater _ (List.mem_map_of_mem hr')) o.data

/-- The text that is filled after the pair has taken the place of its public half. -/
theorem framed_pairAndText :
    ∃ v rest changed, ungated.evaluate pairAndText (.ofSeconds 0) ⟨fun _ => 0, 0⟩ = .ok (v, rest) ∧
      v.object = some changed ∧ ungated.Framed pairAndText (.ofSeconds 0) ⟨fun _ => 0, 0⟩ v.outcomes changed ∧
        changed.fields = ["tls", "tls.pub"] ∧
        ∃ material value, ungated.Gets pairAndText (.ofSeconds 0) ⟨fun _ => 0, 0⟩ ["tls"] "tls.pub" material ∧
          ("tls.pub", value) ∈ material.entries "tls.pub" ∧ changed.data["tls.pub"]? = some value := by
  obtain ⟨v, rest, changed, hok, hobject, houtcomes⟩ := exists_evaluate_pairAndText ⟨fun _ => 0, 0⟩
  obtain ⟨hlisted, -, hframed⟩ := framed_of_evaluate hok
  have hframe := hframed changed hobject
  have hfills : ungated.Fills pairAndText ⟨"tls.pub", .generate, none⟩ "tls.pub" := ⟨⟨rfl, rfl⟩, .inl rfl⟩
  refine ⟨v, rest, changed, hok, hobject, hframe, ?_, ?_⟩
  · rw [hframe.fields, ← hlisted, houtcomes]
    rfl
  · exact hframe.last [⟨"tls", .generate, none⟩] ⟨"tls.pub", .generate, none⟩ [] "tls.pub" houtcomes hfills (by simp)

end Engine

end SecretRotation
