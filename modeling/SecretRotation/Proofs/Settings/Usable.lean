import SecretRotation.Proofs.Cycle.FirstValues
import SecretRotation.Settings.Layer

/-!
# Settings that are accepted

Settings are checked before any cycle. Those that pass make material for every field whose annotations ask for nothing in
particular: whenever a field cannot be filled, a value in its annotations is to blame. Only a breakdown keeps a cycle over
fields without such values from going through.

## Main definitions

* `Engine.Usable`: what the checks make sure of.
* `Annotations.Blamed`: the annotations of a field are to blame for a complaint.
* `ManagedObject.AsksNothing`: no annotation asks for any material in particular.
* `Engine.FitsMemory`: no value would be longer than any memory.
* `Engine.Reliable`: a cycle fails for annotations only.

## Main results

* `Settings.usable_of_engineConfig`: settings that pass all checks are usable.
* `Engine.Usable.blamed_of_complaint?`: what is complained about is to be blamed on annotations.
* `Engine.reliable_of_finalize_iff`: accepted settings make reliable cycles unless an interval breaks its reader down or a
  field is stranded.
* `Engine.exists_accepted_not_reliable`: not all cycles with accepted settings are reliable.
-/

namespace SecretRotation

open Annotations

/-- Material can be had by the defaults, for each kind there is. -/
structure Engine.Usable (g : Engine) : Prop where
  length : g.config.defaults.length ≠ 0
  rsaBits : minRsaBits ≤ g.config.defaults.rsaBits
  curve : (NistCurve.ofName? g.config.defaults.curve).isSome
  charset : g.generator.charset ≠ ""

/-- A value that counts for a field is to blame for a complaint: the name of its kind, the size of its RSA modulus or the
name of the curve of its ECDSA key. -/
def Annotations.Blamed (annotations : Annotations) (field : String) (kind : Except GeneratorError Kind) :
    GeneratorError → Prop
  | .unknownKind name => (candidates annotations Annotations.kind field).head? = some name ∧ Kind.ofName? name = none
  | .rsaTooSmall bits =>
    kind = .ok .rsa ∧ (candidates annotations length field).findSome? FieldSpec.readLength? = some bits ∧ bits < minRsaBits
  | .unsupportedCurve name =>
    kind = .ok .ecdsa ∧ (candidates annotations curve field).head? = some name ∧ NistCurve.ofName? name = none
  | _ => False

/-- No annotation of the object or of one of its fields names a kind, a length or a curve. -/
def ManagedObject.AsksNothing (o : ManagedObject) : Prop :=
  ∀ field ∈ o.fields, ∀ key ∈ making, candidates o.annotations key field = []

instance (o : ManagedObject) : Decidable o.AsksNothing :=
  inferInstanceAs (Decidable (∀ field ∈ o.fields, ∀ key ∈ making, candidates o.annotations key field = []))

namespace Engine

/-- No field would get a value that is longer than any memory. -/
def FitsMemory (g : Engine) (o : ManagedObject) : Prop :=
  ∀ field ∈ o.fields,
    ((g.spec o field).kind.toOption.any fun kind => g.generator.overflows kind (g.spec o field).length) = false

instance (g : Engine) (o : ManagedObject) : Decidable (g.FitsMemory o) :=
  inferInstanceAs (Decidable (∀ field ∈ o.fields,
    ((g.spec o field).kind.toOption.any fun kind => g.generator.overflows kind (g.spec o field).length) = false))

/-- A cycle over an object fails only for a listed field without a value, whose annotations are to blame. If they ask for
nothing in particular it goes through, and all fields without a value are filled. -/
structure Reliable (g : Engine) (o : ManagedObject) (now : Instant) (e : Entropy) : Prop where
  blamed : ∀ failure, g.Ends o now e (.error failure) →
    failure.field ∈ o.fields ∧ o.hasValue failure.field = false ∧
      Blamed o.annotations failure.field (g.spec o failure.field).kind failure.cause
  filled : o.AsksNothing → ∃ v rest, g.Ends o now e (.ok (v, rest)) ∧
    (v.fieldsWith "generate" = o.fields.filter fun field => !o.hasValue field) ∧
    ∀ field ∈ o.fields, (v.object.getD o).hasValue field = true

end Engine

/-! ## Checks -/

theorem DefaultsSettings.of_generation {s : DefaultsSettings} {defaults : GenerationDefaults}
    (h : s.generation = .ok defaults) :
    defaults.length ≠ 0 ∧ minRsaBits ≤ defaults.rsaBits ∧ (NistCurve.ofName? defaults.curve).isSome ∧ s.charset ≠ "" := by
  rw [generation] at h
  split at h
  · cases h
  · by_cases hlength : s.length = 0
    · rw [if_pos hlength] at h
      cases h
    rw [if_neg hlength] at h
    by_cases hbits : s.rsaBits < minRsaBits
    · rw [if_pos hbits] at h
      cases h
    rw [if_neg hbits, NistCurve.parse] at h
    cases hcurve : NistCurve.ofName? s.curve with
    | none =>
      rw [hcurve] at h
      cases h
    | some curve =>
      rw [hcurve] at h
      dsimp only at h
      by_cases hcharset : s.charset = ""
      · rw [if_pos hcharset] at h
        cases h
      rw [if_neg hcharset] at h
      cases h
      exact ⟨hlength, Nat.le_of_not_lt hbits, by rw [hcurve]; rfl, hcharset⟩

/-- Settings that pass all checks are usable, whatever the source of keys. -/
theorem Settings.usable_of_engineConfig {s : Settings} {config : EngineConfig} (h : s.engineConfig = .ok config)
    (keys : KeySource) : Engine.Usable ⟨config, ⟨s.defaults.charset, keys⟩⟩ := by
  rw [engineConfig] at h
  obtain ⟨defaults, hdefaults, h⟩ := exists_of_bind_eq_ok h
  obtain ⟨rotation, -, h⟩ := exists_of_bind_eq_ok h
  obtain ⟨gate, -, h⟩ := exists_of_bind_eq_ok h
  cases h
  obtain ⟨hlength, hbits, hcurve, hcharset⟩ := DefaultsSettings.of_generation hdefaults
  exact ⟨hlength, hbits, hcurve, hcharset⟩

theorem Layer.engineConfig_of_finalize {l : Layer} {s : Settings} (h : l.finalize = .ok s) :
    ∃ config, s.engineConfig = .ok config := by
  rw [finalize] at h
  split at h
  · rename_i config hconfig
    cases h
    exact ⟨config, hconfig⟩
  · cases h

/-! ## Blame -/

theorem Kind.eq_name_of_parse {name : String} {kind : Kind} (h : Kind.parse name = .ok kind) : name = kind.name := by
  rw [parse] at h
  split at h
  · rename_i hname
    cases h
    unfold ofName? at hname
    split at hname <;> cases hname <;> rfl
  · cases h

namespace Engine

variable {g : Engine} {o : ManagedObject} {now : Instant} {e : Entropy} {field : String} {cause : GeneratorError}

/-- The name of the kind is the one that counts among the annotations, or it is that of the default. -/
theorem kindName_cases (g : Engine) (o : ManagedObject) (field : String) :
    (candidates o.annotations Annotations.kind field).head? = some (g.spec o field).kindName ∨
      (g.spec o field).kindName = g.config.defaults.kind.name := by
  simp only [spec, FieldSpec.resolve, FieldSpec.resolveKind]
  cases (candidates o.annotations Annotations.kind field).head? with
  | some name => exact .inl rfl
  | none => exact .inr rfl

theorem curve_cases (g : Engine) (o : ManagedObject) (field : String) :
    (candidates o.annotations curve field).head? = some (g.spec o field).curve ∨
      (g.spec o field).curve = g.config.defaults.curve := by
  simp only [spec, FieldSpec.resolve, FieldSpec.resolveCurve]
  cases (candidates o.annotations curve field).head? with
  | some name => exact .inl rfl
  | none => exact .inr rfl

/-- The length is one that can be read from the annotations, or it is a default. -/
theorem length_cases (g : Engine) (o : ManagedObject) (field : String) :
    (candidates o.annotations length field).findSome? FieldSpec.readLength? = some (g.spec o field).length ∨
      (g.spec o field).length =
        if (g.spec o field).kindName = Kind.rsa.name then g.config.defaults.rsaBits else g.config.defaults.length := by
  simp only [spec, FieldSpec.resolve, FieldSpec.resolveLength]
  cases (candidates o.annotations length field).findSome? FieldSpec.readLength? with
  | some n => exact .inl rfl
  | none => exact .inr rfl

theorem pos_of_readLength? {n : Nat} {text : String} (h : FieldSpec.readLength? text = some n) : 0 < n := by
  simpa using (Option.filter_eq_some_iff.mp h).2

namespace Usable

variable (hg : g.Usable)

include hg

theorem length_ne_zero (o : ManagedObject) (field : String) : (g.spec o field).length ≠ 0 := by
  rcases g.length_cases o field with hread | hdefault
  · obtain ⟨text, -, htext⟩ := List.exists_of_findSome?_eq_some hread
    exact Nat.ne_of_gt (pos_of_readLength? htext)
  · rw [hdefault]
    split
    · have := hg.rsaBits
      simp only [minRsaBits] at this
      omega
    · exact hg.length

/-- What is complained about is to be blamed on annotations. -/
theorem blamed_of_complaint? (h : g.generator.complaint? (g.spec o field) = some cause) :
    Blamed o.annotations field (g.spec o field).kind cause := by
  rw [Generator.complaint?] at h
  split at h
  · rename_i complaint hkind
    cases h
    rw [FieldSpec.kind, Kind.parse] at hkind
    split at hkind
    · cases hkind
    · rename_i hname
      cases hkind
      rcases g.kindName_cases o field with hown | hdefault
      · exact ⟨hown, hname⟩
      · rw [hdefault, Kind.ofName?_name] at hname
        cases hname
  · -- Texts have a length and a charset.
    rw [if_neg (hg.length_ne_zero o field), if_neg hg.charset] at h
    cases h
  · rw [if_neg (hg.length_ne_zero o field)] at h
    cases h
  · rename_i hkind
    split at h
    · rename_i hbits
      cases h
      rcases g.length_cases o field with hread | hdefault
      · exact ⟨hkind, hread, hbits⟩
      · rw [if_pos (Kind.eq_name_of_parse hkind)] at hdefault
        have := hg.rsaBits
        omega
    · cases h
  · rename_i hkind
    split at h
    · rename_i hcurve
      cases h
      rcases g.curve_cases o field with hown | hdefault
      · exact ⟨hkind, hown, hcurve⟩
      · have hsome := hg.curve
        rw [← hdefault, hcurve] at hsome
        cases hsome
    · cases h
  · cases h

end Usable

/-- Nothing is to be blamed on annotations that ask for nothing. -/
theorem not_blamed_of_asksNothing (h : o.AsksNothing) (hfield : field ∈ o.fields) :
    ¬ Blamed o.annotations field (g.spec o field).kind cause := by
  have hnone := h field hfield
  cases cause with
  | unknownKind name => simp [Blamed, hnone Annotations.kind (by decide)]
  | rsaTooSmall bits => simp [Blamed, hnone length (by decide)]
  | unsupportedCurve name => simp [Blamed, hnone curve (by decide)]
  | zeroLength => simp [Blamed]
  | emptyCharset => simp [Blamed]
  | keypairKind kind => simp [Blamed]
  | keySearchFailed algorithm => simp [Blamed]

/-- Usable settings make a value for each field whose annotations ask for nothing. -/
theorem Usable.refuses_eq_false (hg : g.Usable) (h : o.AsksNothing) (hfield : field ∈ o.fields) :
    g.generator.refuses (g.spec o field) = false := by
  rw [← Generator.isSome_complaint?, Option.isSome_eq_false_iff, Option.isNone_iff_eq_none,
    Option.eq_none_iff_forall_ne_some]
  exact fun cause hcause => not_blamed_of_asksNothing h hfield (hg.blamed_of_complaint? hcause)

/-- Where values fit into memory and all fields can be filled, a cycle breaks down at an interval, at a field that is
stranded, or not at all. -/
theorem breaksDown_eq_false_iff (hmemory : g.FitsMemory o)
    (hfillable : ∀ field ∈ o.fields, g.generator.refuses (g.spec o field) = false) :
    g.breaksDown o now o.fields = false ↔
      ∀ field ∈ o.fields, FieldSpec.intervalBreaks o.annotations field = false ∧ g.strandedAt o now field = false := by
  constructor
  · intro hstands field hfield
    have hat := breaksDownAt_eq_false_iff.mp (breaksDownAt_eq_false hstands (fun f hf _ => hfillable f hf) field hfield)
    exact ⟨hat.1, hat.2.1⟩
  · intro hreads
    refine breaksDown_eq_false fun field hfield => breaksDownAt_eq_false_iff.mpr ?_
    exact ⟨(hreads field hfield).1, (hreads field hfield).2, fun _ => hmemory field hfield⟩

/-- Usable settings make a cycle reliable, unless an interval breaks down its reader or a field is stranded where all fields
could be filled. -/
theorem Usable.reliable_iff (hg : g.Usable) (hsearch : FailsBySettings (g.evaluate o now e)) (hmemory : g.FitsMemory o) :
    g.Reliable o now e ↔
      (o.AsksNothing → ∀ field ∈ o.fields,
        FieldSpec.intervalBreaks o.annotations field = false ∧ g.strandedAt o now field = false) := by
  have hstands : o.AsksNothing → (g.breaksDown o now o.fields = false ↔ ∀ field ∈ o.fields,
      FieldSpec.intervalBreaks o.annotations field = false ∧ g.strandedAt o now field = false) := fun hnothing =>
    breaksDown_eq_false_iff hmemory fun field hfield => hg.refuses_eq_false hnothing hfield
  constructor
  · intro h hnothing
    obtain ⟨v, rest, hends, -⟩ := h.filled hnothing
    exact (hstands hnothing).mp hends.1
  · intro hreads
    refine ⟨fun failure hends => ?_, fun hnothing => ?_⟩
    · obtain ⟨hfield, hempty, hcomplaint⟩ := complaint?_of_evaluate hends.2 (hsearch failure hends.2)
      exact ⟨hfield, hempty, hg.blamed_of_complaint? hcomplaint⟩
    · have hends := (hstands hnothing).mpr (hreads hnothing)
      cases heval : g.evaluate o now e with
      | error failure =>
        obtain ⟨hfield, -, hcomplaint⟩ := complaint?_of_evaluate heval (hsearch failure heval)
        exact absurd (hg.blamed_of_complaint? hcomplaint) (not_blamed_of_asksNothing hnothing hfield)
      | ok done => exact ⟨done.1, done.2, ⟨hends, heval⟩, fieldsWith_generate heval, hasValue_of_evaluate heval⟩

/-- **Accepted settings are reliable.** For settings that pass all checks, with any source of keys, a cycle over any object
at any instant fails only for a field whose annotations are to blame, and goes through where they ask for nothing, exactly
if in the latter case no interval of a listed field breaks its reader down and no such field is stranded. Searches for keys
must not be given up for a field without a value, and values must fit into memory. -/
theorem reliable_of_finalize_iff {l : Layer} {s : Settings} (hfinal : l.finalize = .ok s) :
    ∃ config, s.engineConfig = .ok config ∧
      ∀ (keys : KeySource) (o : ManagedObject) (now : Instant) (e : Entropy),
        FailsBySettings (evaluate ⟨config, ⟨s.defaults.charset, keys⟩⟩ o now e) →
        FitsMemory ⟨config, ⟨s.defaults.charset, keys⟩⟩ o →
          (Reliable ⟨config, ⟨s.defaults.charset, keys⟩⟩ o now e ↔
            (o.AsksNothing → ∀ field ∈ o.fields, FieldSpec.intervalBreaks o.annotations field = false ∧
              strandedAt ⟨config, ⟨s.defaults.charset, keys⟩⟩ o now field = false)) := by
  obtain ⟨config, hconfig⟩ := Layer.engineConfig_of_finalize hfinal
  exact ⟨config, hconfig, fun keys o now e hsearch hmemory =>
    (Settings.usable_of_engineConfig hconfig keys).reliable_iff hsearch hmemory⟩

/-- The settings of a cycle if nothing is said. -/
theorem engineConfig_builtIn : Settings.builtIn.engineConfig = .ok default := by decide +kernel

theorem finalize_empty : Layer.empty.finalize = .ok Settings.builtIn := by
  rw [Layer.finalize, show Layer.empty.resolve = Settings.builtIn from rfl, engineConfig_builtIn]

/-- The engine of the built-in settings, with keys computed from entropy. -/
def builtIn : Engine := ⟨default, ⟨Settings.builtIn.defaults.charset, .standard⟩⟩

/-- By the built-in settings the token is filled beside a password that is replaced. -/
theorem reliable_passwordAndToken :
    builtIn.Reliable passwordAndToken (.ofSeconds 43200) ⟨fun _ => 0, 0⟩ ∧ passwordAndToken.AsksNothing := by
  obtain ⟨config, hconfig, hall⟩ := reliable_of_finalize_iff finalize_empty
  obtain rfl : default = config := Except.ok.inj (engineConfig_builtIn.symm.trans hconfig)
  have hsearch : FailsBySettings (builtIn.evaluate passwordAndToken (.ofSeconds 43200) ⟨fun _ => 0, 0⟩) :=
    failsBySettings_of_string (by decide +kernel) _ _
  have hmemory : builtIn.FitsMemory passwordAndToken := by decide +kernel
  have hnothing : passwordAndToken.AsksNothing := by decide +kernel
  have hreads : ∀ field ∈ passwordAndToken.fields, FieldSpec.intervalBreaks passwordAndToken.annotations field = false ∧
      builtIn.strandedAt passwordAndToken (.ofSeconds 43200) field = false := by decide +kernel
  exact ⟨(hall .standard passwordAndToken _ _ hsearch hmemory).mpr fun _ => hreads, hnothing⟩

/-- Not all cycles by accepted settings are reliable: where the interval overflows in its last second, an object that asks
for nothing in particular is not filled. -/
theorem exists_accepted_not_reliable :
    ¬ ∀ (l : Layer) (s : Settings) (config : EngineConfig) (keys : KeySource) (o : ManagedObject) (now : Instant)
        (e : Entropy), l.finalize = .ok s → s.engineConfig = .ok config →
      FailsBySettings (evaluate ⟨config, ⟨s.defaults.charset, keys⟩⟩ o now e) →
      FitsMemory ⟨config, ⟨s.defaults.charset, keys⟩⟩ o → Reliable ⟨config, ⟨s.defaults.charset, keys⟩⟩ o now e := by
  intro hall
  have hsearch : FailsBySettings (builtIn.evaluate overflowing (.ofSeconds 0) ⟨fun _ => 0, 0⟩) :=
    failsBySettings_of_string (by decide +kernel) _ _
  have hmemory : builtIn.FitsMemory overflowing := by decide +kernel
  have hnothing : overflowing.AsksNothing := by decide +kernel
  have hreliable := hall Layer.empty Settings.builtIn default .standard overflowing (.ofSeconds 0) ⟨fun _ => 0, 0⟩
    finalize_empty engineConfig_builtIn hsearch hmemory
  obtain ⟨v, rest, hends, -⟩ := hreliable.filled hnothing
  have hbreaks : builtIn.breaksDown overflowing (.ofSeconds 0) overflowing.fields = true := by decide +kernel
  exact absurd (hbreaks.symm.trans hends.1) (by decide)

end Engine

end SecretRotation
