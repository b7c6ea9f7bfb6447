import SecretRotation.Proofs.Cycle.Foreseen

/-!
# Field by field

A cycle over several fields comes to what cycles over each of them alone come to, taken together: it fails if one of them
fails, and then as the first of these does, and else its outcomes are theirs, one after the other. So the order of the
fields counts for nothing but the order of the outcomes. All this holds unless the cycle breaks down.

## Main definitions

* `Engine.AddsUp`: an evaluation adds up those of the fields.
* `Engine.FieldByField`: a cycle comes to what the cycles over single fields come to.
* `Engine.Reorders`: the order of the fields counts for nothing but that of the outcomes.
* `Engine.DecidesAlike`: objects that agree on a field have the same outcome for it.

## Main results

* `Engine.breaksDown_cons_eq_false_iff`: a cycle breaks down at one of its fields, but not after one that cannot be filled.
* `Engine.fieldByField_iff`: a cycle goes field by field unless it breaks down.
* `Engine.exists_cycle_stopped`: not all cycles do.
-/

namespace SecretRotation.Engine

open Annotations

variable {g : Engine} {o : ManagedObject} {now : Instant} {e rest : Entropy} {v : Evaluation} {field : String}

/-! ## Single fields -/

theorem breaksDown_cons_eq_false_iff {fields : List String} :
    g.breaksDown o now (field :: fields) = false ↔
      g.breaksDownAt o now field = false ∧ (g.Unfillable o field ∨ g.breaksDown o now fields = false) := by
  have hempty : g.decide o field now = .generate ↔ o.hasValue field = false := decide_eq_generate_iff
  rw [breaksDown, Bool.or_eq_false_iff, Unfillable, ← hempty]
  by_cases hgenerate : g.decide o field now = .generate <;>
    cases g.generator.refuses (g.spec o field) <;> simp [hgenerate]

/-- A cycle that does not break down stands at all fields up to the first that cannot be filled. -/
theorem breaksDownAt_of_split {before after : List String} (h : g.breaksDown o now (before ++ field :: after) = false)
    (hbefore : ∀ f ∈ before, ¬ g.Unfillable o f) : ∀ f ∈ before ++ [field], g.breaksDownAt o now f = false := by
  induction before with
  | nil => simpa using (breaksDown_cons_eq_false_iff.mp h).1
  | cons first before ih =>
    obtain ⟨hfirst, hrest⟩ := breaksDown_cons_eq_false_iff.mp h
    have hfillable := hbefore first List.mem_cons_self
    exact List.forall_mem_cons.mpr ⟨hfirst, ih (hrest.resolve_left hfillable) fun f hf => hbefore f (List.mem_cons_of_mem _ hf)⟩

/-- If all fields at which a cycle stands can be filled, then it stands at all of them. -/
theorem stands_of_fillable {fields : List String} (h : g.breaksDown o now fields = false)
    (hfillable : ∀ f ∈ fields, g.breaksDownAt o now f = false → ¬ g.Unfillable o f) :
    ∀ f ∈ fields, g.breaksDownAt o now f = false ∧ ¬ g.Unfillable o f := by
  induction fields with
  | nil => simp
  | cons field fields ih =>
    obtain ⟨hfield, hrest⟩ := breaksDown_cons_eq_false_iff.mp h
    have hfilled := hfillable field List.mem_cons_self hfield
    refine List.forall_mem_cons.mpr ⟨⟨hfield, hfilled⟩, ih (hrest.resolve_left hfilled) fun f hf => ?_⟩
    exact hfillable f (List.mem_cons_of_mem _ hf)

/-- The cycle over a single field breaks down where that over all fields does at it. -/
theorem breaksDown_relisted (hfield : field ∈ o.fields) :
    g.breaksDown (o.relisted field) now (o.relisted field).fields = g.breaksDownAt o now field := by
  rw [o.fields_relisted_of_mem hfield, breaksDown, breaksDown, Bool.and_false, Bool.or_false,
    (o.agreeOn_relisted field field).breaksDownAt_eq]

theorem unfillable_of_evaluate {failure : GenerationFailure} (h : g.evaluate o now e = .error failure)
    (hanswered : Answered (g.evaluate o now e)) : failure.field ∈ o.fields ∧ g.Unfillable o failure.field := by
  obtain ⟨hfield, hempty, hcomplaint⟩ := complaint?_of_evaluate h (hanswered.failure _ h)
  exact ⟨hfield, hempty, by rw [← Generator.isSome_complaint?, hcomplaint]; rfl⟩

/-- The cycle over a single field fails exactly if it does not break down and the field cannot be filled. -/
theorem exists_ends_error_relisted_iff (hfield : field ∈ o.fields)
    (hanswered : Answered (g.evaluate (o.relisted field) now e)) :
    (∃ failure, g.Ends (o.relisted field) now e (.error failure)) ↔
      g.breaksDownAt o now field = false ∧ g.Unfillable o field := by
  have hagree := o.agreeOn_relisted field field
  simp only [Ends, breaksDown_relisted hfield, exists_and_left]
  refine and_congr_right fun _ => ⟨?_, fun hunfillable => ?_⟩
  · rintro ⟨failure, herror⟩
    obtain ⟨hmem, hunfillable⟩ := unfillable_of_evaluate herror hanswered
    rw [o.fields_relisted_of_mem hfield, List.mem_singleton] at hmem
    exact (hagree.unfillable_iff g).mp (hmem ▸ hunfillable)
  · cases heval : g.evaluate (o.relisted field) now e with
    | error failure => exact ⟨failure, rfl⟩
    | ok done =>
      obtain ⟨v, rest⟩ := done
      have hfillable := not_unfillable_of_evaluate heval field (by simp [o.fields_relisted_of_mem hfield])
      exact absurd ((hagree.unfillable_iff g).mpr hunfillable) hfillable

/-- The cycle over a single field that can be filled goes through, if it does not break down. -/
theorem exists_ends_ok_relisted (hfield : field ∈ o.fields)
    (hanswered : Answered (g.evaluate (o.relisted field) now e)) (hstands : g.breaksDownAt o now field = false)
    (hfillable : ¬ g.Unfillable o field) : ∃ v rest, g.Ends (o.relisted field) now e (.ok (v, rest)) := by
  have hnone := (exists_ends_error_relisted_iff hfield hanswered).not.mpr fun h => hfillable h.2
  have hsingle : g.breaksDown (o.relisted field) now (o.relisted field).fields = g.breaksDownAt o now field :=
    breaksDown_relisted hfield
  cases heval : g.evaluate (o.relisted field) now e with
  | error failure => exact absurd ⟨failure, hsingle.trans hstands, heval⟩ hnone
  | ok done => exact ⟨done.1, done.2, hsingle.trans hstands, heval⟩

theorem answered_relisted_of_delivers (hdelivers : ∀ field ∈ o.fields, g.generator.Delivers (g.spec o field))
    (hfield : field ∈ o.fields) : Answered (g.evaluate (o.relisted field) now e) := by
  refine answered_of_delivers fun f hf => ?_
  obtain rfl : f = field := by simpa [o.fields_relisted_of_mem hfield] using hf
  rw [(o.agreeOn_relisted f f).spec_eq]
  exact hdelivers f hfield

/-! ## Sums -/

/-- The evaluation adds up those of the object with each of its fields alone. -/
structure AddsUp (g : Engine) (o : ManagedObject) (now : Instant) (source : String → Entropy) (v : Evaluation)
    (each : String → Evaluation) : Prop where
  ends : ∀ field ∈ o.fields, ∃ rest, g.Ends (o.relisted field) now (source field) (.ok (each field, rest))
  outcomes : v.outcomes = o.fields.flatMap fun field => (each field).outcomes
  requeueAfter : Wake.IsEarliest (o.fields.map fun field => (each field).requeueAfter) v.requeueAfter
  object : v.object.isSome ↔ ∃ field ∈ o.fields, (each field).object.isSome
  replaced : ∀ name, g.Replaces o v name ↔ ∃ field ∈ o.fields, g.Replaces (o.relisted field) (each field) name
  kept : ∀ changed, v.object = some changed → ∀ name, ¬ g.Replaces o v name → changed.data[name]? = o.data[name]?

/-- The cycle fails if that over one of its fields alone does, and as the first of these does. Else it adds them up. -/
structure FieldByField (g : Engine) (o : ManagedObject) (now : Instant) (e : Entropy) (source : String → Entropy) :
    Prop where
  fails_iff : (∃ failure, g.Ends o now e (.error failure)) ↔
    ∃ field ∈ o.fields, ∃ failure, g.Ends (o.relisted field) now (source field) (.error failure)
  first : ∀ failure, g.Ends o now e (.error failure) → ∃ before after single, o.fields = before ++ failure.field :: after ∧
    g.Ends (o.relisted failure.field) now (source failure.field) (.error single) ∧ single.field = failure.field ∧
    single.cause = failure.cause ∧
    ∀ field ∈ before, ∃ v rest, g.Ends (o.relisted field) now (source field) (.ok (v, rest))
  adds : (∀ field ∈ o.fields, ¬ ∃ failure, g.Ends (o.relisted field) now (source field) (.error failure)) →
    ∃ v rest each, g.Ends o now e (.ok (v, rest)) ∧ g.AddsUp o now source v each

/-- The evaluation of the object with one of its fields alone is what is foreseen for this field. -/
structure ForeseenAlone (g : Engine) (o : ManagedObject) (now : Instant) (field : String) (v : Evaluation) : Prop where
  outcomes : v.outcomes = [g.foreseenOutcome o now field]
  requeueAfter : v.requeueAfter = g.foreseenWake o now field
  object : v.object.isSome ↔ (g.foreseenOutcome o now field).GotMaterial
  replaced : ∀ name, g.Replaces (o.relisted field) v name ↔ g.Fills o (g.foreseenOutcome o now field) name

theorem foreseenAlone_of_evaluate (hfield : field ∈ o.fields) (h : g.evaluate (o.relisted field) now e = .ok (v, rest))
    (hanswered : Answered (g.evaluate (o.relisted field) now e)) : g.ForeseenAlone o now field v := by
  have hagree := o.agreeOn_relisted field field
  obtain ⟨houtcomes, hrequeue, hobject, hreplaced, -, -⟩ := foreseen_of_evaluate h hanswered
  simp only [o.fields_relisted_of_mem hfield, List.map_cons, List.map_nil, hagree.foreseenOutcome_eq,
    hagree.foreseenWake_eq, List.mem_singleton, exists_eq_left] at houtcomes hrequeue hobject hreplaced
  refine ⟨houtcomes, hrequeue, hobject, fun name => ?_⟩
  rw [hreplaced name, ← hagree.fills_foreseen_iff g now name, hagree.foreseenOutcome_eq]

theorem addsUp_of_ends {source : String → Entropy} {each : String → Evaluation} (h : g.evaluate o now e = .ok (v, rest))
    (hanswered : Answered (g.evaluate o now e))
    (hsingles : ∀ field ∈ o.fields, Answered (g.evaluate (o.relisted field) now (source field)))
    (heach : ∀ field ∈ o.fields, ∃ rest, g.Ends (o.relisted field) now (source field) (.ok (each field, rest))) :
    g.AddsUp o now source v each := by
  have hforeseen := foreseen_of_evaluate h hanswered
  have hsingle : ∀ field ∈ o.fields, g.ForeseenAlone o now field (each field) := fun field hfield => by
    obtain ⟨rest, hends⟩ := heach field hfield
    exact foreseenAlone_of_evaluate hfield hends.2 (hsingles field hfield)
  refine ⟨heach, ?_, ?_, ?_, fun name => ?_, hforeseen.kept⟩
  · rw [hforeseen.outcomes, List.flatMap_def, List.map_congr_left fun field hfield => (hsingle field hfield).outcomes,
      List.map_eq_flatMap, List.flatMap_def]
  · rw [hforeseen.requeueAfter, List.map_congr_left fun field hfield => (hsingle field hfield).requeueAfter]
    exact Wake.isEarliest_earliest _
  · rw [hforeseen.object]
    exact exists_congr fun field => and_congr_right fun hfield => (hsingle field hfield).object.symm
  · rw [hforeseen.replaced]
    exact exists_congr fun field => and_congr_right fun hfield => ((hsingle field hfield).replaced name).symm

/-- A cycle fails as the cycle over the first of its fields does that fails alone. -/
theorem exists_single_of_ends {source : String → Entropy} {failure : GenerationFailure}
    (hends : g.Ends o now e (.error failure)) (hanswered : Answered (g.evaluate o now e))
    (hsingles : ∀ field ∈ o.fields, Answered (g.evaluate (o.relisted field) now (source field))) :
    ∃ before after single, o.fields = before ++ failure.field :: after ∧
      g.Ends (o.relisted failure.field) now (source failure.field) (.error single) ∧ single.field = failure.field ∧
      single.cause = failure.cause ∧
      ∀ field ∈ before, ∃ v rest, g.Ends (o.relisted field) now (source field) (.ok (v, rest)) := by
  obtain ⟨before, after, hsplit, hbefore, hempty, hcomplaint⟩ := exists_first_of_evaluate hends.2 (hanswered.failure _ hends.2)
  have hstood := breaksDownAt_of_split (hsplit ▸ hends.1) hbefore
  have hmem : failure.field ∈ o.fields := by simp [hsplit]
  have hunfillable : g.Unfillable o failure.field := ⟨hempty, by rw [← Generator.isSome_complaint?, hcomplaint]; rfl⟩
  -- The field alone fails as well, and for the same complaint about its settings.
  obtain ⟨single, hsingle⟩ := (exists_ends_error_relisted_iff hmem (hsingles _ hmem)).mpr
    ⟨hstood _ (by simp), hunfillable⟩
  obtain ⟨before', after', hsplit', -, -, hcomplaint'⟩ :=
    exists_first_of_evaluate hsingle.2 ((hsingles _ hmem).failure _ hsingle.2)
  have hname : single.field = failure.field := by
    have hlisted : single.field ∈ (o.relisted failure.field).fields := by simp [hsplit']
    simpa [o.fields_relisted_of_mem hmem] using hlisted
  rw [hname, (o.agreeOn_relisted failure.field failure.field).spec_eq, hcomplaint] at hcomplaint'
  refine ⟨before, after, single, hsplit, hsingle, hname, (Option.some.inj hcomplaint').symm, fun field hfield => ?_⟩
  have hlisted : field ∈ o.fields := by simp [hsplit, hfield]
  exact exists_ends_ok_relisted hlisted (hsingles field hlisted) (hstood field (by simp [hfield])) (hbefore field hfield)

theorem exists_each_of_fillable {source : String → Entropy}
    (hall : ∀ field ∈ o.fields, g.breaksDownAt o now field = false ∧ ¬ g.Unfillable o field)
    (hsingles : ∀ field ∈ o.fields, Answered (g.evaluate (o.relisted field) now (source field))) :
    ∃ each : String → Evaluation, ∀ field ∈ o.fields,
      ∃ rest, g.Ends (o.relisted field) now (source field) (.ok (each field, rest)) := by
  have hsome : ∀ field, ∃ single, field ∈ o.fields → ∃ rest,
      g.Ends (o.relisted field) now (source field) (.ok (single, rest)) := by
    intro field
    by_cases hfield : field ∈ o.fields
    · obtain ⟨hstands, hfillable⟩ := hall field hfield
      obtain ⟨single, rest, hends⟩ := exists_ends_ok_relisted hfield (hsingles field hfield) hstands hfillable
      exact ⟨single, fun _ => ⟨rest, hends⟩⟩
    · exact ⟨.ofReports g.config.rotation o now [], fun hmem => absurd hmem hfield⟩
  choose each heach using hsome
  exact ⟨each, heach⟩

theorem fieldByField_of_stands {source : String → Entropy} (hstands : g.breaksDown o now o.fields = false)
    (hanswered : Answered (g.evaluate o now e))
    (hsingles : ∀ field ∈ o.fields, Answered (g.evaluate (o.relisted field) now (source field))) :
    g.FieldByField o now e source := by
  refine ⟨⟨?_, ?_⟩, fun failure hends => exists_single_of_ends hends hanswered hsingles, fun hnone => ?_⟩
  · rintro ⟨failure, hends⟩
    obtain ⟨before, after, single, hsplit, hsingle, -⟩ := exists_single_of_ends hends hanswered hsingles
    exact ⟨failure.field, by simp [hsplit], single, hsingle⟩
  · rintro ⟨field, hfield, hsingle⟩
    have hunfillable := ((exists_ends_error_relisted_iff hfield (hsingles field hfield)).mp hsingle).2
    cases heval : g.evaluate o now e with
    | error failure => exact ⟨failure, hstands, heval⟩
    | ok done =>
      obtain ⟨v, rest⟩ := done
      exact absurd hunfillable (not_unfillable_of_evaluate heval field hfield)
  · -- No field alone fails, so that all of them can be filled, and the cycle stands at all of them.
    have hall := stands_of_fillable hstands fun field hfield hstood hunfillable =>
      hnone field hfield ((exists_ends_error_relisted_iff hfield (hsingles field hfield)).mpr ⟨hstood, hunfillable⟩)
    cases heval : g.evaluate o now e with
    | error failure =>
      obtain ⟨hmem, hunfillable⟩ := unfillable_of_evaluate heval hanswered
      exact absurd hunfillable (hall _ hmem).2
    | ok done =>
      obtain ⟨v, rest⟩ := done
      obtain ⟨each, heach⟩ := exists_each_of_fillable hall hsingles
      exact ⟨v, rest, each, ⟨hstands, heval⟩, addsUp_of_ends heval hanswered hsingles heach⟩

/-! ## The order of the fields -/

/-- With its fields in another order the object is evaluated alike, but for the order of the outcomes. -/
def Reorders (g : Engine) (o : ManagedObject) (now : Instant) (v : Evaluation) : Prop :=
  ∀ (list : String) (e' : Entropy), (fieldNames list).Perm o.fields → Answered (g.evaluate (o.relisted list) now e') →
    ∃ v' rest', g.Ends (o.relisted list) now e' (.ok (v', rest')) ∧ v'.outcomes.Perm v.outcomes ∧
      v'.requeueAfter = v.requeueAfter ∧ v'.object.isSome = v.object.isSome ∧
      ∀ changed changed', v.object = some changed → v'.object = some changed' → ∀ key, key ≠ autogenerate →
        changed'.annotations[key]? = changed.annotations[key]?

/-- Objects that agree on a field have the same outcome for it. -/
def DecidesAlike (g : Engine) (now : Instant) : Prop :=
  ∀ (o o' : ManagedObject) (e e' rest rest' : Entropy) (v v' : Evaluation) (f f' : FieldOutcome),
    g.Ends o now e (.ok (v, rest)) → g.Ends o' now e' (.ok (v', rest')) → Answered (g.evaluate o now e) →
    Answered (g.evaluate o' now e') → f ∈ v.outcomes → f' ∈ v'.outcomes → f'.field = f.field → o.AgreeOn o' f.field → f' = f

theorem Foreseen.eq_of_mem (h : g.Foreseen o now v) {f : FieldOutcome} (hf : f ∈ v.outcomes) :
    f = g.foreseenOutcome o now f.field := by
  rw [h.outcomes] at hf
  obtain ⟨field, -, rfl⟩ := List.mem_map.mp hf
  rfl

theorem decidesAlike (g : Engine) (now : Instant) : g.DecidesAlike now := by
  intro o o' e e' rest rest' v v' f f' hends hends' hanswered hanswered' hf hf' hname hagree
  rw [(foreseen_of_evaluate hends'.2 hanswered').eq_of_mem hf', hname, hagree.foreseenOutcome_eq,
    ← (foreseen_of_evaluate hends.2 hanswered).eq_of_mem hf]

theorem reorders_of_ends (h : g.Ends o now e (.ok (v, rest))) (hanswered : Answered (g.evaluate o now e)) :
    g.Reorders o now v := by
  intro list e' hperm hanswered'
  have hagree := o.agreeOn_relisted list
  have hfields : (o.relisted list).fields.Perm o.fields := (o.fields_relisted list).symm ▸ hperm
  have hmem : ∀ field, field ∈ (o.relisted list).fields ↔ field ∈ o.fields := fun field => hfields.mem_iff
  -- What can be filled and where the cycle stands are the same in any order.
  have hall := stands_of_fillable h.1 fun field hfield _ => not_unfillable_of_evaluate h.2 field hfield
  have hstands : g.breaksDown (o.relisted list) now (o.relisted list).fields = false :=
    breaksDown_eq_false fun field hfield => by
      rw [(hagree field).breaksDownAt_eq]
      exact (hall field ((hmem field).mp hfield)).1
  cases heval : g.evaluate (o.relisted list) now e' with
  | error failure =>
    obtain ⟨hlisted, hunfillable⟩ := unfillable_of_evaluate heval hanswered'
    exact absurd (((hagree _).unfillable_iff g).mp hunfillable) (hall _ ((hmem _).mp hlisted)).2
  | ok done =>
    obtain ⟨v', rest'⟩ := done
    have hforeseen := foreseen_of_evaluate h.2 hanswered
    have hforeseen' := foreseen_of_evaluate heval hanswered'
    have houtcome := fun field => (hagree field).foreseenOutcome_eq g now
    refine ⟨v', rest', ⟨hstands, heval⟩, ?_, ?_, ?_, fun changed changed' hobject hobject' key hkey => ?_⟩
    · rw [hforeseen.outcomes, hforeseen'.outcomes, List.map_congr_left fun field _ => houtcome field]
      exact hfields.map _
    · rw [hforeseen.requeueAfter, hforeseen'.requeueAfter,
        List.map_congr_left fun field _ => (hagree field).foreseenWake_eq g now]
      exact (Wake.isEarliest_earliest _).unique (Wake.isEarliest_earliest _) fun d => (hfields.map _).mem_iff
    · rw [Bool.eq_iff_iff, hforeseen.object, hforeseen'.object]
      exact exists_congr fun field => and_congr (hmem field) (by rw [houtcome field])
    · obtain ⟨written, hstamped, hwritten⟩ := hforeseen.stamped changed hobject
      obtain ⟨written', hstamped', hwritten'⟩ := hforeseen'.stamped changed' hobject'
      rw [hstamped, hstamped']
      refine ManagedObject.getElem?_stamped_congr (ManagedObject.getElem?_relisted hkey) (hagree "").stamp?_eq
        (fun field => ?_) hmem fun field => ?_
      · rw [ManagedObject.leansOnStamp, ManagedObject.leansOnStamp, (hagree field).hasValue_eq, (hagree field).fieldStamp?_eq]
      · rw [hwritten', hwritten, hmem, houtcome field]

/-- **Field by field.** Where no search for a key is given up, a cycle comes to what the cycles over its fields alone come to,
exactly if it does not break down. The order of the fields counts for nothing but that of the outcomes, and an outcome
depends on nothing but what counts for its field. -/
theorem fieldByField_iff {source : String → Entropy} (hanswered : Answered (g.evaluate o now e))
    (hsingles : ∀ field ∈ o.fields, Answered (g.evaluate (o.relisted field) now (source field))) :
    (g.FieldByField o now e source ↔ g.breaksDown o now o.fields = false) ∧
      (∀ v rest, g.Ends o now e (.ok (v, rest)) → g.Reorders o now v) ∧ g.DecidesAlike now := by
  refine ⟨⟨fun h => ?_, fun hstands => fieldByField_of_stands hstands hanswered hsingles⟩,
    fun v rest hends => reorders_of_ends hends hanswered, g.decidesAlike now⟩
  -- In either case the cycle comes to an end.
  by_cases hnone : ∃ field ∈ o.fields, ∃ failure, g.Ends (o.relisted field) now (source field) (.error failure)
  · obtain ⟨failure, hends⟩ := h.fails_iff.mpr hnone
    exact hends.1
  · obtain ⟨v, rest, each, hends, -⟩ := h.adds fun field hfield hfails => hnone ⟨field, hfield, hfails⟩
    exact hends.1

/-- A key pair and a text that has the name of its public entry are evaluated field by field, in either order. -/
theorem fieldByField_iff_pairAndText :
    ungated.FieldByField pairAndText (.ofSeconds 0) ⟨fun _ => 0, 0⟩ (fun _ => ⟨fun _ => 1, 0⟩) ∧
      ∃ v rest, ungated.Ends pairAndText (.ofSeconds 0) ⟨fun _ => 0, 0⟩ (.ok (v, rest)) ∧
        ungated.Reorders pairAndText (.ofSeconds 0) v := by
  have hfields : pairAndText.fields = ["tls", "tls.pub"] := by decide +kernel
  have hdelivers : ∀ field ∈ pairAndText.fields, ungated.generator.Delivers (ungated.spec pairAndText field) := by
    intro field hfield
    obtain rfl | rfl : field = "tls" ∨ field = "tls.pub" := by simpa [hfields] using hfield
    · exact Generator.delivers_standard_of_ed25519 kinds_pairAndText.1
    · exact Generator.delivers_of_not_isKeypair kinds_pairAndText.2 rfl
  have hstands : ungated.breaksDown pairAndText (.ofSeconds 0) pairAndText.fields = false := by decide +kernel
  obtain ⟨v, rest, changed, heval, -, -⟩ := exists_evaluate_pairAndText ⟨fun _ => 0, 0⟩
  obtain ⟨hiff, hreorders, -⟩ := fieldByField_iff (answered_of_delivers hdelivers)
    fun field hfield => answered_relisted_of_delivers hdelivers hfield
  exact ⟨hiff.mpr hstands, v, rest, ⟨hstands, heval⟩, hreorders v rest ⟨hstands, heval⟩⟩

/-- An object with a field whose interval overflows in its last second, and after it one of a kind that does not exist. -/
def overflowingAndUnknown : ManagedObject :=
  ⟨⟨"default", "db"⟩, none,
    (((∅ : Annotations).insert autogenerate "a,b").insert (fieldKey rotate "a") "18446744073709551615s 1000ms").insert
      (fieldKey Annotations.kind "b") "x", ∅⟩

/-- Not all cycles go field by field: one that breaks down at a field never gets to the failure of a later one. -/
theorem exists_cycle_stopped :
    ¬ ∀ (g : Engine) (o : ManagedObject) (now : Instant) (e : Entropy) (source : String → Entropy),
      Answered (g.evaluate o now e) →
      (∀ field ∈ o.fields, Answered (g.evaluate (o.relisted field) now (source field))) →
        g.FieldByField o now e source := by
  intro hall
  have hfields : overflowingAndUnknown.fields = ["a", "b"] := by decide +kernel
  have hfirst : (ungated.spec overflowingAndUnknown "a").kind = .ok .string := by decide +kernel
  have hsecond : (ungated.spec overflowingAndUnknown "b").kind = .error (.unknownKind "x") := by decide +kernel
  have hdelivers : ∀ field ∈ overflowingAndUnknown.fields,
      ungated.generator.Delivers (ungated.spec overflowingAndUnknown field) := by
    intro field hfield
    obtain rfl | rfl : field = "a" ∨ field = "b" := by simpa [hfields] using hfield
    · exact Generator.delivers_of_not_isKeypair hfirst rfl
    · exact Generator.delivers_of_unknownKind hsecond
  have hlisted : "b" ∈ overflowingAndUnknown.fields := by simp [hfields]
  have hsingles : ∀ field ∈ overflowingAndUnknown.fields,
      Answered (ungated.evaluate (overflowingAndUnknown.relisted field) (.ofSeconds 0) ⟨fun _ => 0, 0⟩) :=
    fun field hfield => answered_relisted_of_delivers hdelivers hfield
  have hstands : ungated.breaksDownAt overflowingAndUnknown (.ofSeconds 0) "b" = false := by decide +kernel
  have hunfillable : ungated.Unfillable overflowingAndUnknown "b" := ⟨by decide +kernel, by decide +kernel⟩
  have hbreaks : ungated.breaksDown overflowingAndUnknown (.ofSeconds 0) overflowingAndUnknown.fields = true := by
    decide +kernel
  have hfails : ∃ failure, ungated.Ends (overflowingAndUnknown.relisted "b") (.ofSeconds 0) ⟨fun _ => 0, 0⟩ (.error failure) :=
    (exists_ends_error_relisted_iff hlisted (hsingles "b" hlisted)).mpr ⟨hstands, hunfillable⟩
  have hgoes := hall ungated overflowingAndUnknown (.ofSeconds 0) ⟨fun _ => 0, 0⟩ (fun _ => ⟨fun _ => 0, 0⟩)
    (answered_of_delivers hdelivers) hsingles
  obtain ⟨failure, hends⟩ := hgoes.fails_iff.mpr ⟨"b", hlisted, hfails⟩
  exact absurd (hbreaks.symm.trans hends.1) (by decide)

end SecretRotation.Engine
