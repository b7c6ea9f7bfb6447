import SecretRotation.Proofs.Cycle.Entries

/-!
# Baselines after a write

A write moves the stamp of the object to the present second. Where the age of a field counts from afterwards is told by
whether the field was written and by the stamps that stood before: a field that was not written keeps its own stamp, or
takes over that of the object, and only a field whose age counted from nowhere starts with the write.

## Main definitions

* `Evaluation.Wrote`: a cycle gave material to a field.
* `ManagedObject.LacksOwnStamp`: a field has no stamp of its own that can be read.
* `ManagedObject.Restamped`: the baselines after a write, told by what stood before.

## Main results

* `ManagedObject.restamped_of_stamped`: stamping moves the baselines like this if all fields that are not written are filled.
* `Engine.restamped_of_evaluate`: every cycle that leads to an object does.
-/

namespace SecretRotation

variable {o o' : ManagedObject} {now : Instant} {field : String}

/-! ## Stamping -/

namespace ManagedObject

/-- The field has no stamp of its own, or one that is empty or cannot be read. -/
def LacksOwnStamp (o : ManagedObject) (field : String) : Prop :=
  ∀ text, o.annotations[Annotations.fieldKey Annotations.generatedAt field]? = some text →
    text = "" ∨ Instant.parse? text = none

theorem fieldStamp?_eq_none_iff : o.fieldStamp? field = none ↔ o.LacksOwnStamp field := by
  rw [fieldStamp?, annotation?, Annotations.value?, LacksOwnStamp]
  cases o.annotations[Annotations.fieldKey Annotations.generatedAt field]? with
  | none => simp
  | some text =>
    by_cases hempty : text = ""
    · simp [hempty]
    · simp [hempty]

/-- A write at an instant has moved the baselines of the listed fields as it should. -/
structure Restamped (o o' : ManagedObject) (now : Instant) (Wrote : String → Prop) : Prop where
  shared : o'.stamp? = some now.wholeSecond
  written : ∀ field ∈ o.fields, Wrote field → o'.baseline? field = some now.wholeSecond
  kept : ∀ field ∈ o.fields, ¬ Wrote field → ¬ o.LacksOwnStamp field → o'.baseline? field = o.baseline? field
  /-- What is cut off the stamp of the object is less than a second. -/
  pinned : ∀ field ∈ o.fields, ¬ Wrote field → o.LacksOwnStamp field → ∀ previous, o.stamp? = some previous →
    o'.baseline? field = some previous.wholeSecond ∧ previous.wholeSecond ≤ previous ∧
      previous.since previous.wholeSecond < Duration.perSecond
  started : ∀ field ∈ o.fields, o.baseline? field = none → o'.baseline? field = some now.wholeSecond

variable {fields written : List String}

theorem baseline?_of_written (h : o'.annotations = o.stamped fields written now) (hnow : now.FourDigitYear)
    (hwritten : field ∈ written) : o'.baseline? field = some now.wholeSecond :=
  baseline?_of_own (fieldStamp?_of_written h hnow hwritten)

theorem baseline?_of_kept (h : o'.annotations = o.stamped fields written now) (hwritten : field ∉ written)
    (hown : ¬ o.LacksOwnStamp field) : o'.baseline? field = o.baseline? field := by
  obtain ⟨own, hown⟩ := Option.ne_none_iff_exists'.mp (mt fieldStamp?_eq_none_iff.mp hown)
  rw [baseline?_of_own (fieldStamp?_of_own h hwritten hown), baseline?_of_own hown]

/-- A filled field without a stamp of its own takes over the second of the object's stamp. -/
theorem baseline?_of_pinned (h : o'.annotations = o.stamped fields written now) (hfield : field ∈ fields)
    (hwritten : field ∉ written) (hvalue : o.hasValue field = true) (hown : o.LacksOwnStamp field) {previous : Instant}
    (hprevious : o.stamp? = some previous) (hyear : previous.FourDigitYear) :
    o'.baseline? field = some previous.wholeSecond := by
  have hpinned := fieldStamp?_of_no_own h hfield hwritten hvalue (fieldStamp?_eq_none_iff.mpr hown) hprevious
  rw [Instant.parse?_format_whole hyear] at hpinned
  exact baseline?_of_own hpinned

theorem wholeSecond_of_stamp? {previous : Instant} (h : o.stamp? = some previous) :
    previous.wholeSecond ≤ previous ∧ previous.since previous.wholeSecond < Duration.perSecond := by
  obtain ⟨text, -, hparse⟩ := Option.bind_eq_some_iff.mp h
  exact ⟨Instant.wholeSecond_le_of_parse? hparse, Instant.since_wholeSecond_of_parse? hparse⟩

theorem restamped_of_stamped (h : o'.annotations = o.stamped o.fields written now) (hnow : now.FourDigitYear)
    (hstamp : ∀ t, o.stamp? = some t → t.FourDigitYear)
    (hfilled : ∀ field ∈ o.fields, field ∉ written → o.hasValue field = true) :
    o.Restamped o' now (· ∈ written) where
  shared := stamp?_of_stamped h hnow
  written _ _ hwritten := baseline?_of_written h hnow hwritten
  kept _ _ hwritten hown := baseline?_of_kept h hwritten hown
  pinned field hfield hwritten hown previous hprevious :=
    ⟨baseline?_of_pinned h hfield hwritten (hfilled field hfield hwritten) hown hprevious (hstamp previous hprevious),
      wholeSecond_of_stamp? hprevious⟩
  started field _ hnone := by
    by_cases hwritten : field ∈ written
    · exact baseline?_of_written h hnow hwritten
    · exact baseline?_of_no_baseline h hnow hwritten hnone

end ManagedObject

/-! ## Cycles -/

/-- A cycle gave material to the field, at one of the places where it is listed. -/
def Evaluation.Wrote (v : Evaluation) (field : String) : Prop := ∃ f ∈ v.outcomes, f.field = field ∧ f.GotMaterial

namespace Engine

variable {g : Engine} {reports : List FieldReport}

theorem wrote_iff_mem_written {policy : RotationPolicy} (hreported : ∀ r ∈ reports, g.Reported o now r) :
    (Evaluation.ofReports policy o now reports).Wrote field ↔ field ∈ Evaluation.written reports := by
  rw [mem_written_iff]
  constructor
  · rintro ⟨f, hf, hname, hgot⟩
    obtain ⟨r, hr, rfl⟩ := List.mem_map.mp hf
    exact ⟨r, hr, (hreported r hr).isWritten_iff.mpr hgot, hname⟩
  · rintro ⟨r, hr, hwritten, hname⟩
    exact ⟨r.outcome, List.mem_map_of_mem hr, hname, (hreported r hr).isWritten_iff.mp hwritten⟩

theorem hasValue_of_not_mem_written (hreported : ∀ r ∈ reports, g.Reported o now r)
    (hfield : field ∈ reports.map FieldReport.field) (hwritten : field ∉ Evaluation.written reports) :
    o.hasValue field = true := by
  obtain ⟨r, hr, rfl⟩ := List.mem_map.mp hfield
  rcases (hreported r hr).hasValue_or_isWritten with hvalue | hmade
  · exact hvalue
  · exact absurd (mem_written_iff.mpr ⟨r, hr, hmade, rfl⟩) hwritten

/-- **Baselines after a write.** The object that a cycle leads to has the present second as its stamp. The age of a listed
field counts from this second if the field was written, or if its age counted from nowhere before. Any other field keeps
its own stamp exactly, or takes over the second of the old stamp of the object if it went by that one. -/
theorem restamped_of_evaluate {e rest : Entropy} {v : Evaluation} {changed : ManagedObject}
    (h : g.evaluate o now e = .ok (v, rest)) (hv : v.object = some changed) (hnow : now.FourDigitYear)
    (hstamp : ∀ t, o.stamp? = some t → t.FourDigitYear) : o.Restamped changed now v.Wrote := by
  obtain ⟨reports, hfields, hreported, rfl⟩ := exists_reports_of_evaluate h
  obtain ⟨-, -, -, hannotations, -⟩ := Evaluation.of_object_eq_some hv
  have hwrote : (Evaluation.ofReports g.config.rotation o now reports).Wrote = (· ∈ Evaluation.written reports) :=
    funext fun field => propext (wrote_iff_mem_written hreported)
  rw [hwrote]
  rw [hfields] at hannotations
  -- Only filled fields can lean on a stamp, and a field that is not filled yet is always written.
  apply ManagedObject.restamped_of_stamped hannotations hnow hstamp
  intro field hfield hwritten
  exact hasValue_of_not_mem_written hreported (hfields ▸ hfield) hwritten

/-- An object with a password whose own stamp cannot be read, a salt whose stamp tells the time elsewhere, and a token to
fill. -/
def severalStamps : ManagedObject :=
  ⟨⟨"default", "db"⟩, none,
    ((((∅ : Annotations).insert Annotations.autogenerate "password,salt,token").insert
      Annotations.generatedAt "1970-01-01T00:00:00.5Z").insert
      (Annotations.fieldKey Annotations.generatedAt "password") "yesterday").insert
      (Annotations.fieldKey Annotations.generatedAt "salt") "1970-01-01T02:00:00.25+02:00",
    ((∅ : Entries).insert "password" (.ofText "old")).insert "salt" (.ofText "older")⟩

/-- The password goes by the start of 1970 after the token was filled at noon, and the salt by a quarter of a second
later. -/
theorem restamped_severalStamps :
    ∃ done ∈ (ungated.evaluate severalStamps (.ofSeconds 43200) ⟨fun _ => 0, 0⟩).toOption,
      ∃ changed, done.1.object = some changed ∧ severalStamps.Restamped changed (.ofSeconds 43200) done.1.Wrote ∧
        changed.baseline? "password" = some (.ofSeconds 0) ∧
        changed.baseline? "salt" = some ⟨0, 250000000, by decide⟩ ∧
        changed.baseline? "token" = some (.ofSeconds 43200) := by
  have heval : ∃ done ∈ (ungated.evaluate severalStamps (.ofSeconds 43200) ⟨fun _ => 0, 0⟩).toOption,
      ∃ changed ∈ done.1.object, changed.baseline? "password" = some (.ofSeconds 0) ∧
        changed.baseline? "salt" = some ⟨0, 250000000, by decide⟩ ∧
        changed.baseline? "token" = some (.ofSeconds 43200) := by
    decide +kernel
  have hshared : severalStamps.stamp? = some ⟨0, 500000000, by decide⟩ := by decide +kernel
  obtain ⟨done, hdone, changed, hchanged, hbaselines⟩ := heval
  refine ⟨done, hdone, changed, hchanged, ?_, hbaselines⟩
  refine restamped_of_evaluate (eq_ok_of_mem_toOption hdone) hchanged ⟨by decide +kernel, by decide +kernel⟩ fun t ht => ?_
  obtain rfl := Option.some.inj (hshared.symm.trans ht)
  exact ⟨by decide +kernel, by decide +kernel⟩

end Engine

end SecretRotation
