import SecretRotation.Proofs.Cycle.Due
import SecretRotation.Proofs.Cycle.Foreseen

/-!
# First values

Which fields are filled for the first time, and whether all of them can be, is told by the list of fields, by what the
annotations ask for in each of them, and by which of them have a value. When values are to be replaced has no say in it:
neither intervals and stamps nor the gate, the policy and the time. Only a breakdown keeps a value from being made.

## Main definitions

* `Annotations.making`: the keys of the settings by which values are made.
* `ManagedObject.AskAlike`: two objects ask for the same first values.
* `Engine.firstUnfillable?`: the first field that cannot be filled.
* `Engine.FillsAlike`: two cycles fill the same fields for the first time, or fail for the same one.

## Main results

* `Engine.firstUnfillable?_of_error`, `Engine.firstUnfillable?_of_ok`: this field tells whether a cycle fails.
* `Engine.fieldsWith_generate`: a cycle that goes through fills the fields without a value.
* `Engine.fillsAlike_iff`: cycles over objects that ask alike fill alike unless one of them breaks down.
* `Engine.exists_missing_value_blocked`: an interval can keep a value from being made.
-/

namespace SecretRotation

open Annotations

/-- The keys of the settings by which values are made. -/
def Annotations.making : List String := [kind, length, curve]

/-- Two objects list the same fields, ask for the same material in each of them, and have values for the same ones. -/
structure ManagedObject.AskAlike (o o' : ManagedObject) : Prop where
  list : o'.annotations[autogenerate]? = o.annotations[autogenerate]?
  shared : ∀ key ∈ making, o'.annotations[key]? = o.annotations[key]?
  own : ∀ field ∈ o.fields, ∀ key ∈ making, o'.annotations[fieldKey key field]? = o.annotations[fieldKey key field]?
  filled : ∀ field ∈ o.fields, o'.hasValue field = o.hasValue field

theorem Decision.name_eq_generate_iff {d : Decision} : d.name = "generate" ↔ d = .generate := by
  cases d <;> simp [name]

namespace Engine

variable {g g' : Engine} {o o' : ManagedObject} {now now' : Instant} {e e' rest : Entropy} {v : Evaluation}
  {field : String}

/-- The first of the listed fields that has no value and gets none. -/
def firstUnfillable? (g : Engine) (o : ManagedObject) : Option String :=
  o.fields.find? fun field => !o.hasValue field && g.generator.refuses (g.spec o field)

/-- Two cycles fail for the same field with the same complaint, or they fill the same fields for the first time: all that
have no value. -/
def FillsAlike (g g' : Engine) (o o' : ManagedObject) (now now' : Instant) (e e' : Entropy) : Prop :=
  (∃ failure failure', g.Ends o now e (.error failure) ∧ g'.Ends o' now' e' (.error failure') ∧
    failure'.field = failure.field ∧ failure'.cause = failure.cause) ∨
  ∃ v rest v' rest', g.Ends o now e (.ok (v, rest)) ∧ g'.Ends o' now' e' (.ok (v', rest')) ∧
    v'.fieldsWith "generate" = v.fieldsWith "generate" ∧
    v.fieldsWith "generate" = o.fields.filter fun field => !o.hasValue field

/-! ## The first field that cannot be filled -/

theorem not_unfillable_iff :
    ¬ g.Unfillable o field ↔ (!o.hasValue field && g.generator.refuses (g.spec o field)) = false := by
  simp [Unfillable]

/-- A cycle that fails does so at this field, for the complaint about its settings. -/
theorem firstUnfillable?_of_error {failure : GenerationFailure} (h : g.evaluate o now e = .error failure)
    (hsearch : ∀ algorithm, failure.cause ≠ .keySearchFailed algorithm) :
    g.firstUnfillable? o = some failure.field ∧
      g.generator.complaint? (g.spec o failure.field) = some failure.cause := by
  obtain ⟨before, after, hsplit, hbefore, hempty, hcomplaint⟩ := exists_first_of_evaluate h hsearch
  have hrefuses : g.generator.refuses (g.spec o failure.field) = true := by
    rw [← Generator.isSome_complaint?, hcomplaint]
    rfl
  refine ⟨?_, hcomplaint⟩
  rw [firstUnfillable?, hsplit, List.find?_eq_some_iff_append]
  refine ⟨by simp [hempty, hrefuses], before, after, rfl, fun field hfield => ?_⟩
  rw [Bool.not_eq_true']
  exact not_unfillable_iff.mp (hbefore field hfield)

/-- A cycle that goes through has met no such field. -/
theorem firstUnfillable?_of_ok (h : g.evaluate o now e = .ok (v, rest)) : g.firstUnfillable? o = none := by
  rw [firstUnfillable?, List.find?_eq_none]
  intro field hfield
  rw [Bool.not_eq_true]
  exact not_unfillable_iff.mp (not_unfillable_of_evaluate h field hfield)

/-! ## The fields that are filled -/

/-- A field is told to have been filled for the first time exactly if it had no value. -/
theorem Reported.isGenerated_iff {r : FieldReport} (hr : g.Reported o now r) :
    (r.outcome.error.isNone && r.outcome.decision.name == "generate") = !o.hasValue r.field := by
  have hdecision : r.decision = .generate ↔ o.hasValue r.field = false := by
    rw [hr.decision]
    exact decide_eq_generate_iff
  cases hvalue : o.hasValue r.field with
  | false =>
    have hgenerate := hdecision.mpr hvalue
    have hfatal := hr.fatal
    simp only [FieldReport.fatal?, hgenerate] at hfatal
    simp [FieldReport.outcome, hfatal, hgenerate, Decision.name]
  | true =>
    have hnot : r.decision ≠ .generate := fun hgenerate => by simp [hdecision.mp hgenerate] at hvalue
    have hname : r.decision.name ≠ "generate" := fun hname => hnot (Decision.name_eq_generate_iff.mp hname)
    simp [FieldReport.outcome, hname]

/-- A cycle that goes through fills the fields without a value. -/
theorem fieldsWith_generate (h : g.evaluate o now e = .ok (v, rest)) :
    v.fieldsWith "generate" = o.fields.filter fun field => !o.hasValue field := by
  obtain ⟨reports, hfields, hreported, rfl⟩ := exists_reports_of_evaluate h
  show ((reports.map FieldReport.outcome).filter _).map FieldOutcome.field = _
  rw [← hfields, List.filter_map, List.filter_map, List.map_map]
  exact congrArg (List.map FieldReport.field) (List.filter_congr fun r hr => (hreported r hr).isGenerated_iff)

end Engine

/-! ## Objects that ask alike -/

namespace ManagedObject.AskAlike

variable {o o' : ManagedObject} {g g' : Engine} {field : String} (h : o.AskAlike o')

include h

theorem fields_eq : o'.fields = o.fields := by
  rw [fields, fields, annotation?, annotation?, value?, value?, h.list]

theorem candidates_eq (hfield : field ∈ o.fields) {key : String} (hkey : key ∈ making) :
    candidates o'.annotations key field = candidates o.annotations key field := by
  rw [candidates, candidates, value?, value?, value?, value?, h.shared key hkey, h.own field hfield key hkey]

/-- The settings of a field differ in its interval at most. -/
theorem spec_eq (hdefaults : g'.config.defaults = g.config.defaults) (hfield : field ∈ o.fields) :
    g'.spec o' field = { g.spec o field with interval := (g'.spec o' field).interval } := by
  have hkind := h.candidates_eq hfield (show Annotations.kind ∈ making by decide)
  have hlength := h.candidates_eq hfield (show Annotations.length ∈ making by decide)
  have hcurve := h.candidates_eq hfield (show Annotations.curve ∈ making by decide)
  simp only [Engine.spec, FieldSpec.resolve, FieldSpec.resolveKind, FieldSpec.resolveLength, FieldSpec.resolveCurve,
    hkind, hlength, hcurve, hdefaults]
  rfl

theorem complaint?_eq (hdefaults : g'.config.defaults = g.config.defaults) (hgenerator : g'.generator = g.generator)
    (hfield : field ∈ o.fields) :
    g'.generator.complaint? (g'.spec o' field) = g.generator.complaint? (g.spec o field) := by
  rw [hgenerator, h.spec_eq hdefaults hfield]
  rfl

theorem firstUnfillable?_eq (hdefaults : g'.config.defaults = g.config.defaults) (hgenerator : g'.generator = g.generator) :
    g'.firstUnfillable? o' = g.firstUnfillable? o := by
  rw [Engine.firstUnfillable?, Engine.firstUnfillable?, h.fields_eq, ← List.head?_filter, ← List.head?_filter]
  refine congrArg List.head? (List.filter_congr fun field hfield => ?_)
  rw [← Generator.isSome_complaint?, ← Generator.isSome_complaint?, h.complaint?_eq hdefaults hgenerator hfield,
    h.filled field hfield]

end ManagedObject.AskAlike

namespace Engine

variable {g g' : Engine} {o o' : ManagedObject} {now now' : Instant} {e e' : Entropy}

/-- **First values do not depend on replacements.** Over objects that ask alike, and with the same defaults and the same
generator, cycles fail for the same field with the same complaint or fill the same fields for the first time, whatever holds
for replacements in either of them, exactly if neither breaks down. Searches for keys must not be given up for a field
without a value. -/
theorem fillsAlike_iff (hdefaults : g'.config.defaults = g.config.defaults) (hgenerator : g'.generator = g.generator)
    (h : o.AskAlike o') (hsearch : FailsBySettings (g.evaluate o now e)) (hsearch' : FailsBySettings (g'.evaluate o' now' e')) :
    g.FillsAlike g' o o' now now' e e' ↔ g.breaksDown o now o.fields = false ∧ g'.breaksDown o' now' o'.fields = false := by
  have hfirst : g'.firstUnfillable? o' = g.firstUnfillable? o := h.firstUnfillable?_eq hdefaults hgenerator
  constructor
  · rintro (⟨failure, failure', hends, hends', -⟩ | ⟨v, rest, v', rest', hends, hends', -⟩)
    · exact ⟨hends.1, hends'.1⟩
    · exact ⟨hends.1, hends'.1⟩
  · rintro ⟨hstands, hstands'⟩
    cases heval : g.evaluate o now e with
    | error failure =>
      obtain ⟨hfield, hcause⟩ := firstUnfillable?_of_error heval (hsearch failure heval)
      cases heval' : g'.evaluate o' now' e' with
      | error failure' =>
        obtain ⟨hfield', hcause'⟩ := firstUnfillable?_of_error heval' (hsearch' failure' heval')
        have hsame : failure'.field = failure.field := by
          rw [hfirst, hfield] at hfield'
          exact (Option.some.inj hfield').symm
        have hlisted : failure.field ∈ o.fields := List.mem_of_find?_eq_some hfield
        rw [hsame, h.complaint?_eq hdefaults hgenerator hlisted, hcause] at hcause'
        exact .inl ⟨failure, failure', ⟨hstands, heval⟩, ⟨hstands', heval'⟩, hsame, (Option.some.inj hcause').symm⟩
      | ok done' =>
        rw [firstUnfillable?_of_ok heval', hfield] at hfirst
        cases hfirst
    | ok done =>
      cases heval' : g'.evaluate o' now' e' with
      | error failure' =>
        rw [(firstUnfillable?_of_error heval' (hsearch' failure' heval')).1, firstUnfillable?_of_ok heval] at hfirst
        cases hfirst
      | ok done' =>
        have hfilled : o'.fields.filter (!o'.hasValue ·) = o.fields.filter (!o.hasValue ·) := by
          rw [h.fields_eq]
          exact List.filter_congr fun field hfield => by rw [h.filled field hfield]
        refine .inr ⟨done.1, done.2, done'.1, done'.2, ⟨hstands, heval⟩, ⟨hstands', heval'⟩, ?_, fieldsWith_generate heval⟩
        rw [fieldsWith_generate heval', fieldsWith_generate heval, hfilled]

theorem failsBySettings_of_string (h : ∀ field ∈ o.fields, (g.spec o field).kind = .ok .string) (now : Instant)
    (e : Entropy) : FailsBySettings (g.evaluate o now e) :=
  (answered_of_delivers (delivers_of_string h)).failure

/-- An object with a password and what is written as its interval, and with a token to fill. -/
def tokenBeside (interval : String) : ManagedObject :=
  ⟨⟨"default", "db"⟩, none,
    (((∅ : Annotations).insert autogenerate "password,token").insert (fieldKey rotate "password") interval).insert
      generatedAt "yesterday",
    (∅ : Entries).insert "password" (.ofText "old")⟩

theorem askAlike_tokenBeside (interval : String) : passwordAndToken.AskAlike (tokenBeside interval) := by
  have hfields : passwordAndToken.fields = ["password", "token"] := by decide +kernel
  have hother : ∀ key, key ≠ fieldKey rotate "password" → key ≠ generatedAt →
      (tokenBeside interval).annotations[key]? = passwordAndToken.annotations[key]? := by
    intro key hrotate hstamp
    simp [tokenBeside, passwordAndToken, Std.ExtTreeMap.getElem?_insert, hrotate.symm, hstamp.symm]
  have hshared : ∀ key ∈ making, key ≠ fieldKey rotate "password" ∧ key ≠ generatedAt := by decide
  have hown : ∀ field ∈ ["password", "token"], ∀ key ∈ making,
      fieldKey key field ≠ fieldKey rotate "password" ∧ fieldKey key field ≠ generatedAt := by
    decide
  refine ⟨hother _ (by decide) (by decide), fun key hkey => ?_, fun field hfield key hkey => ?_, fun _ _ => rfl⟩
  · exact hother _ (hshared key hkey).1 (hshared key hkey).2
  · obtain ⟨hrotate, hstamp⟩ := hown field (hfields ▸ hfield) key hkey
    exact hother _ hrotate hstamp

/-- A gate, intervals of a day or more, and all replacements told. -/
def strict (gate : Gate) : Engine := ⟨⟨default, ⟨.ofSeconds 86400, true⟩, gate⟩, .standard "x"⟩

/-- The token is filled on a Thursday at noon, beside a password that is due and replaced, and beside one of which neither
interval nor stamp can be read, with a gate that is shut. -/
theorem fillsAlike_passwordAndToken :
    ∃ gate : Gate, ¬ gate.Open (.ofSeconds 43200) ∧
      ungated.FillsAlike (strict gate) passwordAndToken (tokenBeside "hourly") (.ofSeconds 43200) (.ofSeconds 43200)
        ⟨fun _ => 0, 0⟩ ⟨fun _ => 1, 0⟩ ∧
      ungated.decide passwordAndToken "password" (.ofSeconds 43200) = .rotate ∧
      (strict gate).decide (tokenBeside "hourly") "password" (.ofSeconds 43200) = .skip none := by
  refine ⟨⟨true, [Gate.abidjanSunday], by simp⟩, by decide +kernel, ?_, by decide +kernel, by decide +kernel⟩
  have hdefaults : (strict ⟨true, [Gate.abidjanSunday], by simp⟩).config.defaults = ungated.config.defaults := rfl
  have hgenerator : (strict ⟨true, [Gate.abidjanSunday], by simp⟩).generator = ungated.generator := rfl
  have hsearch := failsBySettings_of_string (g := ungated) (o := passwordAndToken) (by decide +kernel)
    (.ofSeconds 43200) ⟨fun _ => 0, 0⟩
  have hsearch' := failsBySettings_of_string (g := strict ⟨true, [Gate.abidjanSunday], by simp⟩)
    (o := tokenBeside "hourly") (by decide +kernel) (.ofSeconds 43200) ⟨fun _ => 1, 0⟩
  have hiff := fillsAlike_iff hdefaults hgenerator (askAlike_tokenBeside "hourly") hsearch hsearch'
  exact hiff.mpr ⟨by decide +kernel, by decide +kernel⟩

/-- Not all cycles over objects that ask alike fill alike: where the interval of a password overflows in its last second, the
token beside it is not filled. -/
theorem exists_missing_value_blocked :
    ¬ ∀ (g g' : Engine) (o o' : ManagedObject) (now now' : Instant) (e e' : Entropy),
      g'.config.defaults = g.config.defaults → g'.generator = g.generator → o.AskAlike o' →
      FailsBySettings (g.evaluate o now e) → FailsBySettings (g'.evaluate o' now' e') →
        g.FillsAlike g' o o' now now' e e' := by
  intro hall
  have hbreaks : ungated.breaksDown (tokenBeside "18446744073709551615s 1000ms") (.ofSeconds 0)
      (tokenBeside "18446744073709551615s 1000ms").fields = true := by
    decide +kernel
  have halike := hall ungated ungated passwordAndToken (tokenBeside "18446744073709551615s 1000ms") (.ofSeconds 0)
    (.ofSeconds 0) ⟨fun _ => 0, 0⟩ ⟨fun _ => 0, 0⟩ rfl rfl (askAlike_tokenBeside _)
    (failsBySettings_of_string (by decide +kernel) _ _) (failsBySettings_of_string (by decide +kernel) _ _)
  rcases halike with ⟨failure, failure', -, hends', -⟩ | ⟨v, rest, v', rest', -, hends', -⟩
  · exact absurd (hbreaks.symm.trans hends'.1) (by decide)
  · exact absurd (hbreaks.symm.trans hends'.1) (by decide)

end Engine

end SecretRotation
