import SecretRotation.Proofs.Cycle.Quiet

/-!
# The entries that a field fills

A field that gets material fills the entry of its name, and with a key pair the public entry beside it as well. That entry
may have had a value before, which nobody has asked about: only the entry of the field itself is looked at before it is
filled for the first time.

## Main definitions

* `FieldOutcome.GotMaterial`, `Engine.MakesPair`: the field got material in the cycle, and its kind is one of key pairs.
* `Engine.Fills`: an outcome fills the entry of a name.
* `Engine.Made`: the material is one that the settings of a field lead to.
* `Engine.Justified`: what a cycle changes of an object is justified by the object.

## Main results

* `Engine.Reported.fills_iff`: the names that a field fills are told by its outcome.
* `Engine.justified_of_evaluate`: what a cycle changes is justified.
-/

namespace SecretRotation

variable {g : Engine} {o : ManagedObject} {now : Instant}

/-- The field got material, for the first time or again. -/
def FieldOutcome.GotMaterial (f : FieldOutcome) : Prop := f.decision.producesMaterial = true ∧ f.error = none

namespace Engine

/-- The settings of a field ask for a key pair. -/
def MakesPair (g : Engine) (o : ManagedObject) (field : String) : Prop :=
  ∃ kind, (g.spec o field).kind = .ok kind ∧ kind.isKeypair = true

/-- An outcome fills the entry of its field, and the public entry as well if the field has a key pair. -/
def Fills (g : Engine) (o : ManagedObject) (f : FieldOutcome) (name : String) : Prop :=
  f.GotMaterial ∧ (name = f.field ∨ g.MakesPair o f.field ∧ name = Annotations.publicEntry f.field)

/-- The settings of a field lead to the material, with some entropy. -/
def Made (g : Engine) (o : ManagedObject) (field : String) (material : Material) : Prop :=
  ∃ e rest, g.generator.produce (g.spec o field) e = .ok (material, rest)

end Engine

/-! ## What a field fills -/

/-- Kinds of key pairs lead to pairs, and the others to single values. -/
theorem Generator.exists_pair_iff {generator : Generator} {spec : FieldSpec} {e rest : Entropy} {material : Material}
    (h : generator.produce spec e = .ok (material, rest)) :
    (∃ key, material = .pair key) ↔ ∃ kind, spec.kind = .ok kind ∧ kind.isKeypair = true := by
  rw [produce] at h
  split at h
  · cases h
  all_goals
    rename_i hkind
    obtain ⟨made, -, rfl⟩ := exists_of_map_eq_ok h
    simp [hkind, Kind.isKeypair]

namespace Engine

variable {r : FieldReport} {name : String}

theorem Made.exists_pair_iff {field : String} {material : Material} (h : g.Made o field material) :
    (∃ key, material = .pair key) ↔ g.MakesPair o field := by
  obtain ⟨e, rest, hproduce⟩ := h
  exact Generator.exists_pair_iff hproduce

/-- Material has values for the field itself and, if it is a key pair, for the public entry. -/
theorem Made.exists_mem_entries_iff {field : String} {material : Material} (h : g.Made o field material) :
    (∃ value, (name, value) ∈ material.entries field) ↔
      name = field ∨ g.MakesPair o field ∧ name = Annotations.publicEntry field := by
  rw [← h.exists_pair_iff]
  cases material with
  | value bytes => simp [Material.entries]
  | pair key => simp [Material.entries, exists_or]

namespace Reported

theorem isWritten_iff (hr : g.Reported o now r) : r.isWritten = true ↔ r.outcome.GotMaterial := by
  constructor
  · intro hwritten
    obtain ⟨material, hresult⟩ := FieldReport.exists_produced hwritten
    exact ⟨hr.producesMaterial hwritten, by simp only [FieldReport.outcome, FieldReport.cause?, hresult]⟩
  · rintro ⟨hmaterial, herror⟩
    obtain ⟨e, he⟩ := hr.attempted hmaterial
    simp only [FieldReport.outcome, FieldReport.cause?, FieldReport.isWritten, he, attempt] at herror ⊢
    cases hproduce : g.generator.produce r.spec e with
    | ok produced => rfl
    | error cause => simp [hproduce] at herror

theorem exists_made (hr : g.Reported o now r) (hgot : r.outcome.GotMaterial) :
    ∃ material, g.Made o r.field material ∧ r.entries = material.entries r.field := by
  obtain ⟨e, rest, material, hproduce, hresult⟩ := hr.exists_produce (hr.isWritten_iff.mpr hgot)
  rw [hr.spec] at hproduce
  exact ⟨material, ⟨e, rest, hproduce⟩, by simp only [FieldReport.entries, hresult]⟩

/-- The names that a field fills are told by its outcome. -/
theorem fills_iff (hr : g.Reported o now r) : g.Fills o r.outcome name ↔ ∃ value, (name, value) ∈ r.entries := by
  constructor
  · rintro ⟨hgot, hname⟩
    obtain ⟨material, hmade, hentries⟩ := hr.exists_made hgot
    rw [hentries]
    exact hmade.exists_mem_entries_iff.mpr hname
  · rintro ⟨value, hentry⟩
    have hgot := hr.isWritten_iff.mp (FieldReport.of_mem_entries hentry).1
    obtain ⟨material, hmade, hentries⟩ := hr.exists_made hgot
    rw [hentries] at hentry
    exact ⟨hgot, hmade.exists_mem_entries_iff.mp ⟨value, hentry⟩⟩

end Reported

/-- What a cycle changes of an object is justified by the object: values are only made for fields without one and for
fields that are due, no entries change but those of such fields, and a value that was there is replaced only because its
own field was due, or by the public half of the key pair of another one. -/
structure Justified (g : Engine) (o changed : ManagedObject) (now : Instant) (fields : List FieldOutcome) : Prop where
  generated : ∀ f ∈ fields, f.decision = .generate → o.hasValue f.field = false
  rotated : ∀ f ∈ fields, f.decision = .rotate → g.Due o f.field now
  entries : ∀ name, changed.data[name]? ≠ o.data[name]? → ∃ f ∈ fields, g.Fills o f name
  replaced : ∀ name, o.hasValue name = true → changed.data[name]? ≠ o.data[name]? →
    (∃ f ∈ fields, f.field = name ∧ f.decision = .rotate ∧ f.error = none ∧ g.Due o name now) ∨
      ∃ f ∈ fields, f.GotMaterial ∧ g.MakesPair o f.field ∧ name = Annotations.publicEntry f.field

theorem justified_of_evaluate {e rest : Entropy} {v : Evaluation} {changed : ManagedObject}
    (h : g.evaluate o now e = .ok (v, rest)) (hv : v.object = some changed) : g.Justified o changed now v.outcomes := by
  obtain ⟨-, hdecisions⟩ := outcomes_of_evaluate h
  have hgenerated : ∀ f ∈ v.outcomes, f.decision = .generate → o.hasValue f.field = false := fun f hf hdecision =>
    decide_eq_generate_iff.mp ((hdecisions f hf).symm.trans hdecision)
  have hrotated : ∀ f ∈ v.outcomes, f.decision = .rotate → g.Due o f.field now := fun f hf hdecision =>
    decide_eq_rotate_iff.mp ((hdecisions f hf).symm.trans hdecision)
  have hentries : ∀ name, changed.data[name]? ≠ o.data[name]? → ∃ f ∈ v.outcomes, g.Fills o f name := by
    intro name hname
    obtain ⟨reports, -, hreported, rfl⟩ := exists_reports_of_evaluate h
    obtain ⟨-, -, -, -, hdata⟩ := Evaluation.of_object_eq_some hv
    rw [hdata] at hname
    rcases Evaluation.getElem?_entries o.data reports name with ⟨hsame, -⟩ | ⟨r, hr, entry, hentry, rfl, -⟩
    · exact absurd hsame hname
    · exact ⟨r.outcome, List.mem_map_of_mem hr, (hreported r hr).fills_iff.mpr ⟨entry.2, hentry⟩⟩
  refine ⟨hgenerated, hrotated, hentries, fun name hvalue hname => ?_⟩
  obtain ⟨f, hf, hgot, rfl | ⟨hpair, hpublic⟩⟩ := hentries name hname
  · -- A field with a value is not filled for the first time.
    rcases Decision.eq_generate_or_rotate hgot.1 with hgenerate | hrotate
    · rw [hgenerated f hf hgenerate] at hvalue
      cases hvalue
    · exact .inl ⟨f, hf, rfl, hrotate, hgot.2, hrotated f hf hrotate⟩
  · exact .inr ⟨f, hf, hgot, hpair, hpublic⟩

end Engine

end SecretRotation
