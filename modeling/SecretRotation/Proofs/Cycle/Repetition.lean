import Mathlib.Data.List.Nodup
import SecretRotation.Proofs.Cycle.Outcomes
import SecretRotation.Proofs.Duration.Printer
import SecretRotation.Proofs.Text.Quoted

/-!
# Names that are listed again

A cycle goes through the list of fields as it stands there. A name that is listed again is served again: it has another
outcome, it may get material in place of what it got just before, and it is warned of again. That a field is served once
therefore hangs on the list.

Which field a warning is about can be read off its message, whatever the name of the field is.

## Main definitions

* `Notification.names`: the first quoted text of a message is a name.
* `Evaluation.Serves`: how often a field has an outcome, gets material and is warned of.

## Main results

* `FieldOutcome.names_warning_iff`: a warning names its field and no other.
* `Engine.warningsAbout_of_evaluate`: the warnings about a field are those that its outcomes tell.
* `Engine.serves_of_evaluate`: each field is served as often as it is listed.
* `Engine.exists_field_served_twice`: not every field is served once.
-/

namespace SecretRotation

/-! ## Whom a warning is about -/

/-- The first quoted text of the message is a name. -/
def Notification.names (n : Notification) (field : String) : Bool :=
  (Text.quoted field).toList.isPrefixOf (n.message.toList.dropWhile (· ≠ '"'))

/-- A message whose first quote opens a quoted text names what stands in that. -/
theorem Notification.names_iff {n : Notification} {field : String} (front name back : String)
    (hmessage : n.message = front ++ Text.quoted name ++ back) (hfront : '"' ∉ front.toList) :
    n.names field = true ↔ field = name := by
  have hquoted : n.message.toList.dropWhile (· ≠ '"') = (Text.quoted name).toList ++ back.toList := by
    have hplain : ∀ c ∈ front.toList, decide (c ≠ '"') = true := fun c hc =>
      decide_eq_true fun heq => hfront (heq ▸ hc)
    rw [hmessage, String.toList_append, String.toList_append, List.append_assoc, List.dropWhile_append_of_pos hplain,
      Text.quoted, String.toList_ofList]
    rfl
  rw [names, hquoted, List.isPrefixOf_iff_prefix]
  constructor
  · rintro ⟨rest, hrest⟩
    exact (Text.quoted_append_inj hrest).1
  · rintro rfl
    exact List.prefix_append _ _

namespace FieldOutcome

variable {f : FieldOutcome} {n : Notification} {field : String}

theorem reason_of_warning (h : f.warning? = some n) : n.reason = .rotationFailed := by
  rw [warning?] at h
  split at h
  · obtain ⟨cause, -, rfl⟩ := Option.map_eq_some_iff.mp h
    rfl
  · cases h
    rfl
  · cases h

/-- A warning names its field and no other. -/
theorem names_warning_iff (h : f.warning? = some n) : n.names field = true ↔ field = f.field := by
  rw [warning?] at h
  split at h
  · obtain ⟨cause, -, rfl⟩ := Option.map_eq_some_iff.mp h
    refine Notification.names_iff "Failed to rotate value for field " f.field (": " ++ cause.message) ?_ (by decide)
    simp only [String.append_assoc]
  · rename_i interval minimum _
    cases h
    refine Notification.names_iff ("Rotation interval " ++ interval.format ++ " for field ") f.field
      (" is below minimum " ++ minimum.format) (by simp only [String.append_assoc]) ?_
    -- The printed interval stands before the name, but has no quotes.
    simp only [String.toList_append, List.mem_append, not_or]
    exact ⟨⟨by decide, Duration.quote_not_mem_format interval⟩, by decide⟩
  · cases h

instance : DecidablePred GotMaterial := fun f =>
  inferInstanceAs (Decidable (f.decision.producesMaterial = true ∧ f.error = none))

end FieldOutcome

/-! ## How often a field is served -/

namespace Evaluation

variable {v : Evaluation} {field : String} {reports : List FieldReport}

/-- The outcomes of a field. -/
def outcomesOf (v : Evaluation) (field : String) : List FieldOutcome :=
  v.outcomes.filter (·.field = field)

/-- How often a field got material. -/
def timesFilled (v : Evaluation) (field : String) : Nat :=
  (v.outcomesOf field).countP fun f => f.GotMaterial

/-- How many warnings there are about the replacement of a field. -/
def warningsAbout (v : Evaluation) (field : String) : Nat :=
  v.notifications.countP fun n => n.reason = .rotationFailed && n.names field

/-- A field has so many outcomes, gets material and is warned of no more often than that, and is warned of just as often if
its interval is refused. -/
structure Serves (v : Evaluation) (times : Nat) (field : String) : Prop where
  outcomes : (v.outcomesOf field).length = times
  filled : v.timesFilled field ≤ times
  warned : v.warningsAbout field ≤ times
  refused : ∀ f ∈ v.outcomesOf field, ∀ interval minimum, f.decision = .belowMinimum interval minimum →
    v.warningsAbout field = times

theorem length_outcomesOf {fields : List String} (h : v.outcomes.map FieldOutcome.field = fields) :
    (v.outcomesOf field).length = fields.count field := by
  rw [outcomesOf, ← List.countP_eq_length_filter, ← h, List.count, List.countP_map]
  exact List.countP_congr fun f _ => by simp

theorem mem_successes {announce : Bool} {n : Notification} (h : n ∈ successes announce reports) :
    n = generated ∨ n = rotated := by
  rw [successes, List.mem_append] at h
  rcases h with h | h <;> split at h
  · exact .inl (List.mem_singleton.mp h)
  · cases h
  · exact .inr (List.mem_singleton.mp h)
  · cases h

theorem warningsAbout_ofReports (policy : RotationPolicy) (o : ManagedObject) (now : Instant)
    (reports : List FieldReport) :
    (ofReports policy o now reports).warningsAbout field =
      ((ofReports policy o now reports).outcomesOf field).countP fun f => f.warning?.isSome := by
  have hnotifications : (ofReports policy o now reports).notifications =
      (ofReports policy o now reports).outcomes.filterMap FieldOutcome.warning? ++ successes policy.announce reports :=
    congrArg (· ++ _) (FieldReport.filterMap_warning?_eq reports)
  have hsuccesses : (successes policy.announce reports).countP
      (fun n => n.reason = .rotationFailed && n.names field) = 0 := by
    rw [List.countP_eq_zero]
    intro n hn
    rcases mem_successes hn with rfl | rfl <;> simp [generated, rotated]
  rw [warningsAbout, hnotifications, List.countP_append, hsuccesses, Nat.add_zero, List.countP_filterMap, outcomesOf,
    List.countP_filter]
  refine List.countP_congr fun f _ => ?_
  cases hwarning : f.warning? with
  | none => simp
  | some n => simp [FieldOutcome.reason_of_warning hwarning, FieldOutcome.names_warning_iff hwarning, eq_comm]

end Evaluation

namespace Engine

variable {g : Engine} {o : ManagedObject} {now : Instant} {e rest : Entropy} {v : Evaluation}

/-- The warnings about a field are those that its outcomes tell. -/
theorem warningsAbout_of_evaluate (h : g.evaluate o now e = .ok (v, rest)) (field : String) :
    v.warningsAbout field = (v.outcomesOf field).countP fun f => f.warning?.isSome := by
  obtain ⟨reports, -, -, rfl⟩ := exists_reports_of_evaluate h
  exact Evaluation.warningsAbout_ofReports _ _ _ _

/-- **Fields are served as often as they are listed.** A cycle that goes through has as many outcomes of a field as its name
stands in the list. The field gets material at most that often, and is warned of at most that often, and just that often if
its interval is refused. So all fields are served once exactly if no name is listed twice. -/
theorem serves_of_evaluate (h : g.evaluate o now e = .ok (v, rest)) :
    (∀ field ∈ o.fields, v.Serves (o.fields.count field) field) ∧
      ((∀ field ∈ o.fields, v.Serves 1 field) ↔ o.fields.Nodup) := by
  obtain ⟨hlisted, hdecisions⟩ := outcomes_of_evaluate h
  have hserves : ∀ field, v.Serves (o.fields.count field) field := by
    intro field
    have hlength : (v.outcomesOf field).length = o.fields.count field := v.length_outcomesOf hlisted
    have hwarnings := warningsAbout_of_evaluate h field
    refine ⟨hlength, hlength ▸ List.countP_le_length, hlength ▸ hwarnings ▸ List.countP_le_length,
      fun f hf interval minimum hrefused => ?_⟩
    -- What is decided for the first outcome of the field is decided for all of them.
    rw [hwarnings, ← hlength, List.countP_eq_length]
    intro f' hf'
    obtain ⟨hmem, hfield⟩ := List.mem_filter.mp hf
    obtain ⟨hmem', hfield'⟩ := List.mem_filter.mp hf'
    have hsame : f'.decision = f.decision := by
      rw [hdecisions f' hmem', hdecisions f hmem, of_decide_eq_true hfield, of_decide_eq_true hfield']
    exact f'.isSome_warning?_iff.mpr (.inl ⟨interval, minimum, hsame.trans hrefused⟩)
  refine ⟨fun field _ => hserves field, ?_⟩
  rw [List.nodup_iff_count_eq_one]
  refine forall₂_congr fun field _ => ⟨fun honce => ?_, fun hcount => hcount ▸ hserves field⟩
  exact (hserves field).outcomes.symm.trans honce.outcomes

/-- None of the mixed fields is listed twice. -/
theorem serves_mixedFields :
    ∃ done ∈ (announcing.evaluate mixedFields (.ofSeconds 43200) ⟨fun _ => 0, 0⟩).toOption,
      ∀ field ∈ mixedFields.fields, done.1.Serves 1 field := by
  have hdone : (announcing.evaluate mixedFields (.ofSeconds 43200) ⟨fun _ => 0, 0⟩).toOption.isSome = true := by
    decide +kernel
  obtain ⟨done, hdone⟩ := Option.isSome_iff_exists.mp hdone
  refine ⟨done, hdone, (serves_of_evaluate (eq_ok_of_mem_toOption hdone)).2.mpr ?_⟩
  decide +kernel

/-- An object whose password is listed twice and is to be replaced too often. -/
def passwordTwice : ManagedObject :=
  ⟨⟨"default", "db"⟩, none,
    ((∅ : Annotations).insert Annotations.autogenerate "password,password").insert Annotations.rotate "10s",
    (∅ : Entries).insert "password" (.ofText "existing")⟩

/-- Not every field is served once: the password that is listed twice is warned of twice. -/
theorem exists_field_served_twice :
    ¬ ∀ (g : Engine) (o : ManagedObject) (now : Instant) (e rest : Entropy) (v : Evaluation),
      g.evaluate o now e = .ok (v, rest) → ∀ field ∈ o.fields, v.Serves 1 field := by
  intro hall
  have htwice : ∃ done ∈ (announcing.evaluate passwordTwice (.ofSeconds 43200) ⟨fun _ => 0, 0⟩).toOption,
      "password" ∈ passwordTwice.fields ∧ done.1.warningsAbout "password" = 2 := by decide +kernel
  obtain ⟨done, hdone, hlisted, hwarnings⟩ := htwice
  have honce := (hall announcing passwordTwice (.ofSeconds 43200) _ done.2 done.1 (eq_ok_of_mem_toOption hdone)
    "password" hlisted).warned
  omega

end Engine

end SecretRotation
