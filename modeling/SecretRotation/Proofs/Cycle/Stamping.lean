import SecretRotation.Cycle.Stamping
import SecretRotation.Field.Spec
import SecretRotation.Proofs.Instant.Stamp

/-!
# What stamping changes

Stamps have annotations of their own. Moving them changes none of the settings of an object; written fields count their age
from the present second, and all others from the second from which they did so before, or from later.

## Main definitions

* `Annotations.IsStamp`: the annotations in which stamps stand.
* `ManagedObject.SameSettings`: two objects differ in stamps and entries only.
* `ManagedObject.CanPin`: the stamp of the object can be pinned to a field.

## Main results

* `ManagedObject.sameSettings_of_stamped`: stamping keeps the settings.
* `ManagedObject.baseline?_of_stamped`: the time from which the age of a field counts after a write.
* `ManagedObject.fieldStamp?_of_written`, `ManagedObject.exists_baseline?_of_not_written`,
  `ManagedObject.baseline?_of_no_baseline`: what that time is for fields that were written, and for those that were not.
-/

namespace SecretRotation

variable {field : String}

namespace Annotations

/-! ## Keys -/

/-- The annotation is a stamp, that of the object or one of a field. -/
def IsStamp (key : String) : Prop := generatedAt.toList <+: key.toList

theorem isStamp_fieldKey (field : String) : IsStamp (fieldKey generatedAt field) := by
  simp only [IsStamp, fieldKey, String.toList_append, List.append_assoc]
  exact List.prefix_append _ _

theorem isStamp_generatedAt : IsStamp generatedAt := List.prefix_rfl

/-- No key is a stamp whose beginning has nothing to do with that of stamps. -/
theorem not_isStamp_append (base : String)
    (h : ¬ generatedAt.toList <+: base.toList ∧ ¬ base.toList <+: generatedAt.toList) (rest : String) :
    ¬ IsStamp (base ++ rest) := by
  intro hstamp
  rw [IsStamp, String.toList_append] at hstamp
  rcases List.prefix_or_prefix_of_prefix hstamp (List.prefix_append _ _) with hprefix | hprefix
  · exact h.1 hprefix
  · exact h.2 hprefix

theorem fieldKey_inj {base field field' : String} (h : fieldKey base field = fieldKey base field') : field = field' := by
  have hchars := congrArg String.toList h
  simp only [fieldKey, String.toList_append, List.append_assoc] at hchars
  exact String.toList_inj.mp (List.append_cancel_left (List.append_cancel_left hchars))

theorem fieldKey_generatedAt_ne (field : String) : fieldKey generatedAt field ≠ generatedAt := by
  intro h
  have hlength := congrArg (fun key => key.toList.length) h
  simp only [fieldKey, String.toList_append, List.length_append] at hlength
  have : (".".toList).length = 1 := by decide
  omega

end Annotations

open Annotations

/-! ## Settings -/

namespace FieldSpec

variable {annotations annotations' : Annotations}

/-- The settings of a field are told by the annotations that apply to it. -/
theorem resolve_congr (defaults : GenerationDefaults)
    (hkind : candidates annotations' Annotations.kind field = candidates annotations Annotations.kind field)
    (hlength : candidates annotations' Annotations.length field = candidates annotations Annotations.length field)
    (hcurve : candidates annotations' Annotations.curve field = candidates annotations Annotations.curve field)
    (hrotate : candidates annotations' rotate field = candidates annotations rotate field) :
    resolve annotations' defaults field = resolve annotations defaults field := by
  simp only [resolve, resolveKind, resolveLength, resolveCurve, resolveInterval, hkind, hlength, hcurve, hrotate]
  rfl

theorem intervalBreaks_congr (hrotate : candidates annotations' rotate field = candidates annotations rotate field) :
    intervalBreaks annotations' field = intervalBreaks annotations field := by
  simp only [intervalBreaks, hrotate]

end FieldSpec

namespace ManagedObject

/-- Two objects have the same annotations but for stamps. -/
def SameSettings (o o' : ManagedObject) : Prop :=
  ∀ key, ¬ IsStamp key → o'.annotations[key]? = o.annotations[key]?

variable {o o' : ManagedObject}

namespace SameSettings

theorem refl (o : ManagedObject) : o.SameSettings o := fun _ _ => rfl

theorem trans {o'' : ManagedObject} (h : o.SameSettings o') (h' : o'.SameSettings o'') : o.SameSettings o'' :=
  fun key hkey => (h' key hkey).trans (h key hkey)

theorem fields_eq (h : o.SameSettings o') : o'.fields = o.fields := by
  have hkey : ¬ IsStamp autogenerate := by simpa using not_isStamp_append autogenerate (by decide) ""
  rw [fields, annotation?, value?, h _ hkey]
  rfl

theorem candidates_eq (h : o.SameSettings o') (base : String)
    (hbase : ¬ generatedAt.toList <+: base.toList ∧ ¬ base.toList <+: generatedAt.toList) (field : String) :
    candidates o'.annotations base field = candidates o.annotations base field := by
  have hkey : ¬ IsStamp base := by simpa using not_isStamp_append base hbase ""
  have hfield : ¬ IsStamp (fieldKey base field) := by
    rw [fieldKey, String.append_assoc]
    exact not_isStamp_append base hbase _
  rw [candidates, candidates, value?, value?, value?, value?, h _ hkey, h _ hfield]

theorem resolve_eq (h : o.SameSettings o') (defaults : GenerationDefaults) (field : String) :
    FieldSpec.resolve o'.annotations defaults field = FieldSpec.resolve o.annotations defaults field :=
  FieldSpec.resolve_congr defaults (h.candidates_eq kind (by decide) field)
    (h.candidates_eq Annotations.length (by decide) field) (h.candidates_eq curve (by decide) field)
    (h.candidates_eq rotate (by decide) field)

theorem intervalBreaks_eq (h : o.SameSettings o') (field : String) :
    FieldSpec.intervalBreaks o'.annotations field = FieldSpec.intervalBreaks o.annotations field :=
  FieldSpec.intervalBreaks_congr (h.candidates_eq rotate (by decide) field)

end SameSettings

/-! ## Stamps -/

variable {annotations : Annotations} {fields written : List String} {stamp : String} {now : Instant}

theorem getElem?_stampFields_of_ne {key : String} (h : ∀ field ∈ fields, fieldKey generatedAt field ≠ key) :
    (stampFields annotations fields stamp)[key]? = annotations[key]? := by
  rw [stampFields]
  induction fields generalizing annotations with
  | nil => rfl
  | cons field fields ih =>
    have hne := h field List.mem_cons_self
    rw [List.foldl_cons, ih fun f hf => h f (List.mem_cons_of_mem _ hf), Std.ExtTreeMap.getElem?_insert]
    simp [hne]

theorem getElem?_stampFields_of_mem (h : field ∈ fields) :
    (stampFields annotations fields stamp)[fieldKey generatedAt field]? = some stamp := by
  rw [stampFields]
  induction fields generalizing annotations with
  | nil => simp at h
  | cons f fields ih =>
    rw [List.foldl_cons]
    -- The last time that the field is listed counts, since the ones after it have other keys.
    by_cases hmem : field ∈ fields
    · exact ih hmem
    · obtain rfl : field = f := by simpa [hmem] using h
      have hrest : (stampFields (annotations.insert (fieldKey generatedAt field) stamp) fields stamp)[fieldKey generatedAt
          field]? = (annotations.insert (fieldKey generatedAt field) stamp)[fieldKey generatedAt field]? :=
        getElem?_stampFields_of_ne fun f hf heq => hmem (fieldKey_inj heq ▸ hf)
      rw [stampFields] at hrest
      rw [hrest]
      simp

theorem getElem?_stampFields_of_not_mem (h : field ∉ fields) :
    (stampFields annotations fields stamp)[fieldKey generatedAt field]? = annotations[fieldKey generatedAt field]? :=
  getElem?_stampFields_of_ne fun _ hf heq => h (fieldKey_inj heq ▸ hf)

theorem getElem?_stampFields_of_not_isStamp {key : String} (h : ¬ IsStamp key) :
    (stampFields annotations fields stamp)[key]? = annotations[key]? :=
  getElem?_stampFields_of_ne fun field _ heq => h (heq ▸ isStamp_fieldKey field)

/-- Which fields are stamped counts, and not in what order. -/
theorem getElem?_stampFields_congr {annotations' : Annotations} {fields' : List String} {key : String}
    (hkey : annotations'[key]? = annotations[key]?) (hfields : ∀ field, field ∈ fields' ↔ field ∈ fields) :
    (stampFields annotations' fields' stamp)[key]? = (stampFields annotations fields stamp)[key]? := by
  by_cases hstamped : ∃ field ∈ fields, fieldKey generatedAt field = key
  · obtain ⟨field, hfield, rfl⟩ := hstamped
    rw [getElem?_stampFields_of_mem hfield, getElem?_stampFields_of_mem ((hfields field).mpr hfield)]
  · rw [getElem?_stampFields_of_ne fun field hfield heq => hstamped ⟨field, hfield, heq⟩,
      getElem?_stampFields_of_ne fun field hfield heq => hstamped ⟨field, (hfields field).mp hfield, heq⟩, hkey]

/-- The old stamp is pinned to the fields that lean on it. -/
theorem getElem?_pinned (o : ManagedObject) (hfield : field ∈ fields) (hwritten : field ∉ written) :
    (o.pinned fields written)[fieldKey generatedAt field]? = o.annotations[fieldKey generatedAt field]? ∨
      ∃ previous, o.stamp? = some previous ∧ o.leansOnStamp field = true ∧
        (o.pinned fields written)[fieldKey generatedAt field]? = some previous.format := by
  rw [pinned]
  cases hstamp : o.stamp? with
  | none => exact Or.inl rfl
  | some previous =>
    cases hleans : o.leansOnStamp field with
    | false => exact Or.inl (getElem?_stampFields_of_not_mem (by simp [hleans]))
    | true => exact Or.inr ⟨previous, rfl, rfl, getElem?_stampFields_of_mem (by simp [hfield, hwritten, hleans])⟩

theorem getElem?_pinned_of_not_isStamp {key : String} (h : ¬ IsStamp key) :
    (o.pinned fields written)[key]? = o.annotations[key]? := by
  rw [pinned]
  cases o.stamp? with
  | none => rfl
  | some previous => exact getElem?_stampFields_of_not_isStamp h

theorem getElem?_stamped_of_ne {key : String} (h : key ≠ generatedAt) :
    (o.stamped fields written now)[key]? = (stampFields (o.pinned fields written) written now.format)[key]? := by
  rw [stamped, Std.ExtTreeMap.getElem?_insert]
  simp [h.symm]

theorem getElem?_stamped_generatedAt : (o.stamped fields written now)[generatedAt]? = some now.format := by
  rw [stamped, Std.ExtTreeMap.getElem?_insert]
  simp

/-- The annotations after a write do not depend on the order of the fields. -/
theorem getElem?_stamped_congr {fields' written' : List String} {key : String}
    (hkey : o'.annotations[key]? = o.annotations[key]?) (hstamp : o'.stamp? = o.stamp?)
    (hleans : ∀ field, o'.leansOnStamp field = o.leansOnStamp field) (hfields : ∀ field, field ∈ fields' ↔ field ∈ fields)
    (hwritten : ∀ field, field ∈ written' ↔ field ∈ written) :
    (o'.stamped fields' written' now)[key]? = (o.stamped fields written now)[key]? := by
  have hpinned : (o'.pinned fields' written')[key]? = (o.pinned fields written)[key]? := by
    rw [pinned, pinned, hstamp]
    cases o.stamp? with
    | none => exact hkey
    | some previous => exact getElem?_stampFields_congr hkey fun field => by simp [hfields, hwritten, hleans]
  by_cases hshared : key = generatedAt
  · rw [hshared, getElem?_stamped_generatedAt, getElem?_stamped_generatedAt]
  · rw [getElem?_stamped_of_ne hshared, getElem?_stamped_of_ne hshared]
    exact getElem?_stampFields_congr hpinned hwritten

theorem sameSettings_of_stamped (h : o'.annotations = o.stamped fields written now) : o.SameSettings o' := by
  intro key hkey
  have hne : key ≠ generatedAt := by
    rintro rfl
    exact hkey isStamp_generatedAt
  rw [h, getElem?_stamped_of_ne hne, getElem?_stampFields_of_not_isStamp hkey, getElem?_pinned_of_not_isStamp hkey]

/-! ## The age of a field -/

theorem eq_of_parse?_value? {annotations : Annotations} {key : String} {t u : Instant} (ht : t.Ordinary)
    (hkey : annotations[key]? = some t.format) (h : (value? annotations key).bind Instant.parse? = some u) :
    u = .ofSeconds t.seconds := by
  obtain ⟨text, htext, hparse⟩ := Option.bind_eq_some_iff.mp h
  rw [value?, hkey] at htext
  obtain rfl : t.format = text := Option.some.inj (Option.eq_some_of_filter_eq_some htext)
  exact Instant.eq_of_parse?_format ht hparse

/-- After a write the age of a field counts from the present second, or else from where it counted before, if need be cut off
to the second. -/
theorem baseline?_of_stamped (h : o'.annotations = o.stamped fields written now) (hnow : now.Ordinary)
    (hstamp : ∀ t, o.stamp? = some t → t.Ordinary) (hfield : field ∈ fields) {baseline : Instant}
    (hbaseline : o'.baseline? field = some baseline) :
    baseline = .ofSeconds now.seconds ∨
      field ∉ written ∧ ∃ previous, o.baseline? field = some previous ∧
        (baseline = previous ∨ baseline = .ofSeconds previous.seconds) := by
  have hkey : o'.annotations[fieldKey generatedAt field]? =
      (stampFields (o.pinned fields written) written now.format)[fieldKey generatedAt field]? := by
    rw [h, getElem?_stamped_of_ne (fieldKey_generatedAt_ne field)]
  rw [baseline?] at hbaseline
  cases hown : o'.fieldStamp? field with
  | none =>
    -- Without a stamp of its own the field goes by that of the object, which is the present second now.
    rw [hown] at hbaseline
    refine Or.inl (eq_of_parse?_value? hnow ?_ hbaseline)
    rw [h, getElem?_stamped_generatedAt]
  | some own =>
    rw [hown] at hbaseline
    obtain rfl : own = baseline := Option.some.inj hbaseline
    by_cases hwritten : field ∈ written
    · rw [getElem?_stampFields_of_mem hwritten] at hkey
      exact Or.inl (eq_of_parse?_value? hnow hkey hown)
    · rw [getElem?_stampFields_of_not_mem hwritten] at hkey
      refine Or.inr ⟨hwritten, ?_⟩
      rcases o.getElem?_pinned hfield hwritten with hpinned | ⟨previous, hprevious, hleans, hpinned⟩
      · -- The field has kept its own stamp.
        have hsame : o.fieldStamp? field = some own := by
          rw [← hown, fieldStamp?, fieldStamp?, annotation?, annotation?, value?, value?, hkey, hpinned]
        exact ⟨own, by rw [baseline?, hsame]; rfl, Or.inl rfl⟩
      · -- The field went by the stamp of the object, which has become its own.
        rw [hpinned] at hkey
        have hnone : o.fieldStamp? field = none := by
          simp only [leansOnStamp, Bool.and_eq_true, Option.isNone_iff_eq_none] at hleans
          exact hleans.2
        have hcut := eq_of_parse?_value? (hstamp _ hprevious) hkey hown
        exact ⟨previous, by rw [baseline?, hnone, hprevious]; rfl, Or.inr hcut⟩

/-! ## Stamps after a write -/

/-- A stamp that was written is read like any text of its kind. -/
theorem bind_value?_of_getElem? {key : String} {t : Instant} (h : annotations[key]? = some t.format) :
    (value? annotations key).bind Instant.parse? = Instant.parse? t.format := by
  rw [value?, h, Option.filter_some, if_pos (by simpa using t.format_ne_empty), Option.bind_some]

theorem stamp?_of_stamped (h : o'.annotations = o.stamped fields written now) (hnow : now.FourDigitYear) :
    o'.stamp? = some now.wholeSecond := by
  have hkey : o'.annotations[generatedAt]? = some now.format := by rw [h, getElem?_stamped_generatedAt]
  rw [stamp?, annotation?, bind_value?_of_getElem? hkey, Instant.parse?_format_whole hnow]

/-- A written field has the present second as its own stamp. -/
theorem fieldStamp?_of_written (h : o'.annotations = o.stamped fields written now) (hnow : now.FourDigitYear)
    (hwritten : field ∈ written) : o'.fieldStamp? field = some now.wholeSecond := by
  have hkey : o'.annotations[fieldKey generatedAt field]? = some now.format := by
    rw [h, getElem?_stamped_of_ne (fieldKey_generatedAt_ne field), getElem?_stampFields_of_mem hwritten]
  rw [fieldStamp?, annotation?, bind_value?_of_getElem? hkey, Instant.parse?_format_whole hnow]

theorem getElem?_stamped_of_not_mem (hwritten : field ∉ written) :
    (o.stamped fields written now)[fieldKey generatedAt field]? =
      (o.pinned fields written)[fieldKey generatedAt field]? := by
  rw [getElem?_stamped_of_ne (fieldKey_generatedAt_ne field), getElem?_stampFields_of_not_mem hwritten]

theorem fieldStamp?_congr (h : o'.annotations[fieldKey generatedAt field]? = o.annotations[fieldKey generatedAt field]?) :
    o'.fieldStamp? field = o.fieldStamp? field := by
  rw [fieldStamp?, fieldStamp?, annotation?, annotation?, value?, value?, h]

/-- A field keeps its own stamp if it was not written and does not lean on that of the object. -/
theorem fieldStamp?_of_not_leaning (h : o'.annotations = o.stamped fields written now) (hwritten : field ∉ written)
    (hleans : o.leansOnStamp field = false ∨ o.stamp? = none) : o'.fieldStamp? field = o.fieldStamp? field := by
  refine fieldStamp?_congr ?_
  rw [h, getElem?_stamped_of_not_mem hwritten, pinned]
  rcases hleans with hleans | hnone
  · cases o.stamp? with
    | none => rfl
    | some previous => exact getElem?_stampFields_of_not_mem (by simp [hleans])
  · rw [hnone]

/-- A field that was not written, and that leans on the stamp of the object, has that stamp as its own, as far as it can be
read. -/
theorem fieldStamp?_of_leaning (h : o'.annotations = o.stamped fields written now) (hfield : field ∈ fields)
    (hwritten : field ∉ written) (hleans : o.leansOnStamp field = true) {previous : Instant}
    (hprevious : o.stamp? = some previous) : o'.fieldStamp? field = Instant.parse? previous.format := by
  have hkey : o'.annotations[fieldKey generatedAt field]? = some previous.format := by
    rw [h, getElem?_stamped_of_not_mem hwritten, pinned, hprevious]
    exact getElem?_stampFields_of_mem (by simp [hfield, hwritten, hleans])
  rw [fieldStamp?, annotation?, bind_value?_of_getElem? hkey]

/-- A field that was not written keeps its own stamp. -/
theorem fieldStamp?_of_own (h : o'.annotations = o.stamped fields written now) (hwritten : field ∉ written) {own : Instant}
    (hown : o.fieldStamp? field = some own) : o'.fieldStamp? field = some own := by
  have hleans : o.leansOnStamp field = false := by simp [leansOnStamp, hown]
  rw [fieldStamp?_of_not_leaning h hwritten (.inl hleans), hown]

/-- A filled field that was not written takes over the stamp of the object if it has none of its own. -/
theorem fieldStamp?_of_no_own (h : o'.annotations = o.stamped fields written now) (hfield : field ∈ fields)
    (hwritten : field ∉ written) (hvalue : o.hasValue field = true) (hown : o.fieldStamp? field = none) {previous : Instant}
    (hprevious : o.stamp? = some previous) : o'.fieldStamp? field = Instant.parse? previous.format := by
  have hleans : o.leansOnStamp field = true := by simp [leansOnStamp, hvalue, hown]
  exact fieldStamp?_of_leaning h hfield hwritten hleans hprevious

theorem baseline?_of_own {own : Instant} (hown : o.fieldStamp? field = some own) : o.baseline? field = some own := by
  rw [baseline?, hown]
  rfl

theorem baseline?_of_no_own (hnone : o.fieldStamp? field = none) : o.baseline? field = o.stamp? := by
  rw [baseline?, hnone]
  rfl

/-- The stamp of the object can be pinned to a field, or need not be. -/
def CanPin (o : ManagedObject) (field : String) : Prop :=
  o.fieldStamp? field = none → ∀ previous, o.stamp? = some previous → previous.Stampable

/-- The age of a field that was not written counts from where it did before, if need be cut off to the second. -/
theorem exists_baseline?_of_not_written (h : o'.annotations = o.stamped fields written now) (hfield : field ∈ fields)
    (hwritten : field ∉ written) (hvalue : o.hasValue field = true) (hpin : o.CanPin field) {baseline : Instant}
    (hbaseline : o.baseline? field = some baseline) :
    ∃ kept, o'.fieldStamp? field = some kept ∧ (kept = baseline ∨ kept = .ofSeconds baseline.seconds) := by
  cases hown : o.fieldStamp? field with
  | some own =>
    rw [baseline?_of_own hown] at hbaseline
    obtain rfl := Option.some.inj hbaseline
    exact ⟨own, fieldStamp?_of_own h hwritten hown, .inl rfl⟩
  | none =>
    rw [baseline?_of_no_own hown] at hbaseline
    have hpinned := fieldStamp?_of_no_own h hfield hwritten hvalue hown hbaseline
    rw [Instant.parse?_format (hpin hown baseline hbaseline)] at hpinned
    exact ⟨_, hpinned, .inr rfl⟩

/-- Where the stamp of the object cannot be read again, a write starts the age anew. -/
theorem baseline?_of_unreadable (h : o'.annotations = o.stamped fields written now) (hnow : now.FourDigitYear)
    (hfield : field ∈ fields) (hwritten : field ∉ written) (hvalue : o.hasValue field = true)
    (hown : o.fieldStamp? field = none) {previous : Instant} (hprevious : o.stamp? = some previous)
    (hyear : ¬ (0 ≤ (Date.ofDay previous.day).year ∧ (Date.ofDay previous.day).year ≤ 9999)) :
    o'.baseline? field = some now.wholeSecond := by
  have hpinned := fieldStamp?_of_no_own h hfield hwritten hvalue hown hprevious
  rw [Instant.parse?_format_eq_none hyear] at hpinned
  rw [baseline?_of_no_own hpinned, stamp?_of_stamped h hnow]

/-- Where no age counts from anywhere, a write starts it. -/
theorem baseline?_of_no_baseline (h : o'.annotations = o.stamped fields written now) (hnow : now.FourDigitYear)
    (hwritten : field ∉ written) (hnone : o.baseline? field = none) : o'.baseline? field = some now.wholeSecond := by
  have hown : o.fieldStamp? field = none := by
    cases hown : o.fieldStamp? field with
    | none => rfl
    | some own => simp [baseline?_of_own hown] at hnone
  rw [baseline?_of_no_own hown] at hnone
  rw [← fieldStamp?_of_not_leaning h hwritten (.inr hnone)] at hown
  rw [baseline?_of_no_own hown, stamp?_of_stamped h hnow]

end ManagedObject

end SecretRotation
