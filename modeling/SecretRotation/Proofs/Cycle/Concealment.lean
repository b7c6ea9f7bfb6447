import SecretRotation.Proofs.Cycle.Due
import SecretRotation.Proofs.Cycle.Foreseen

/-!
# Secrets stay hidden

Nothing that is shown, told or written down beside the entries themselves depends on secret bytes: neither on those that an
object holds, as long as the same entries are empty, nor on those that a cycle draws. Only searches for keys that are given
up would tell of the bytes that were drawn.

## Main definitions

* `ManagedObject.LooksLike`: two objects differ in the bytes of entries that are not empty at most.
* `FieldReport.TellsLike`: two reports differ in their material at most.
* `Engine.KeysFound`: no search for a key is given up in a cycle.
* `Evaluation.LooksLike`, `Engine.AnswersLike`: two answers differ in what must not be seen at most.

## Main results

* `ManagedObject.LooksLike.shown_eq`: objects that look alike are shown alike.
* `Engine.tellsLike_report`, `Engine.reports_alike`: fields of objects that look alike are reported on alike.
* `Engine.looksLike_ofReports`: reports that tell the same add up to evaluations that look alike.
* `Engine.answersLike_evaluate`: cycles over objects that look alike answer alike.
-/

namespace SecretRotation

/-- Two objects look alike: they differ in the bytes of entries that are not empty at most. -/
structure ManagedObject.LooksLike (o o' : ManagedObject) : Prop where
  key : o'.key = o.key
  version : o'.version = o.version
  annotations : o'.annotations = o.annotations
  names : ∀ name, name ∈ o'.data ↔ name ∈ o.data
  filled : ∀ name, o'.hasValue name = o.hasValue name

/-- The names of the entries that are filled. -/
def FieldReport.names (r : FieldReport) : List String := r.entries.map Prod.fst

/-- Two reports tell the same: they differ in the bytes of their material at most. -/
structure FieldReport.TellsLike (r r' : FieldReport) : Prop where
  spec : r'.spec = r.spec
  decision : r'.decision = r.decision
  cause : r'.cause? = r.cause?
  written : r'.isWritten = r.isWritten
  names : r'.names = r.names

/-- Two evaluations tell the same, and what they write looks alike. -/
structure Evaluation.LooksLike (v v' : Evaluation) : Prop where
  outcomes : v'.outcomes = v.outcomes
  notifications : v'.notifications = v.notifications
  requeueAfter : v'.requeueAfter = v.requeueAfter
  object : Option.Rel ManagedObject.LooksLike v.object v'.object

namespace Engine

/-- No search for a key is given up in the cycle over some fields. -/
def KeysFound (g : Engine) (o : ManagedObject) (now : Instant) : List String → Entropy → Prop
  | [], _ => True
  | field :: fields, e =>
    (∀ algorithm, (g.report o now field e).1.cause? ≠ some (.keySearchFailed algorithm)) ∧
      ((g.report o now field e).1.fatal? = none → KeysFound g o now fields (g.report o now field e).2)

/-- Two answers fail alike, or they are evaluations that look alike and replace the same entries. -/
def AnswersLike (g : Engine) (o o' : ManagedObject) :
    Except GenerationFailure (Evaluation × Entropy) → Except GenerationFailure (Evaluation × Entropy) → Prop
  | .error failure, .error failure' => failure' = failure
  | .ok (v, _), .ok (v', _) => v.LooksLike v' ∧ ∀ name, g.Replaces o' v' name ↔ g.Replaces o v name
  | _, _ => False

end Engine

/-! ## Objects that look alike -/

theorem map_toList_entries {α : Type} {f : String × SecretBytes → α} (hidden : String → α)
    (hf : ∀ entry, f entry = hidden entry.1) (data : Entries) : data.toList.map f = data.keys.map hidden := by
  rw [← Std.ExtTreeMap.map_fst_toList_eq_keys, List.map_map]
  exact List.map_congr_left fun entry _ => hf entry

namespace ManagedObject.LooksLike

variable {o o' : ManagedObject} (h : o.LooksLike o')

include h

theorem keys_eq : o'.data.keys = o.data.keys := by
  have hunits : o'.data.map (fun _ _ => ()) = o.data.map (fun _ _ => ()) :=
    Std.ExtTreeMap.ext_mem_unit fun name => by
      rw [Std.ExtTreeMap.mem_map, Std.ExtTreeMap.mem_map]
      exact h.names name
  calc
    o'.data.keys = (o'.data.map fun _ _ => ()).keys := Std.ExtTreeMap.keys_map.symm
    _ = (o.data.map fun _ _ => ()).keys := by rw [hunits]
    _ = o.data.keys := Std.ExtTreeMap.keys_map

/-- Objects that look alike are shown alike: of an entry only the name is shown. -/
theorem shown_eq : o'.shown = o.shown := by
  let hidden : String → Shown := fun name => .labelled (Text.quoted name) (Secret.shown (⟨()⟩ : Secret Unit))
  rw [shown, shown, map_toList_entries hidden, map_toList_entries hidden, h.keys_eq, h.key, h.version, h.annotations]
  · exact fun _ => rfl
  · exact fun _ => rfl

theorem fields_eq : o'.fields = o.fields := by rw [fields, fields, annotation?, annotation?, h.annotations]

theorem spec_eq (g : Engine) (field : String) : g.spec o' field = g.spec o field := by
  rw [Engine.spec, Engine.spec, h.annotations]

theorem stamp?_eq : o'.stamp? = o.stamp? := by rw [stamp?, stamp?, annotation?, annotation?, h.annotations]

theorem fieldStamp?_eq (field : String) : o'.fieldStamp? field = o.fieldStamp? field := by
  rw [fieldStamp?, fieldStamp?, annotation?, annotation?, h.annotations]

theorem decide_eq (g : Engine) (field : String) (now : Instant) : g.decide o' field now = g.decide o field now := by
  simp only [Engine.decide, Engine.state, Engine.spec_field, baseline?, h.spec_eq, h.filled, h.stamp?_eq, h.fieldStamp?_eq]

theorem stamped_eq (fields written : List String) (now : Instant) :
    o'.stamped fields written now = o.stamped fields written now := by
  simp only [stamped, pinned, leansOnStamp, h.annotations, h.filled, h.stamp?_eq, h.fieldStamp?_eq]

theorem breaksDown_eq (g : Engine) (now : Instant) (fields : List String) :
    g.breaksDown o' now fields = g.breaksDown o now fields := by
  induction fields with
  | nil => rfl
  | cons field fields ih =>
    simp only [Engine.breaksDown, Engine.breaksDownAt, h.annotations, h.spec_eq, h.decide_eq,
      Engine.strandedAt_congr (h.decide_eq g field now), ih]

theorem fills_iff (g : Engine) (f : FieldOutcome) (name : String) : g.Fills o' f name ↔ g.Fills o f name := by
  simp only [Engine.Fills, Engine.MakesPair, h.spec_eq]

end ManagedObject.LooksLike

/-! ## Reports that tell the same -/

/-- Material for the same settings fills the same entries. -/
theorem Generator.names_eq_of_produce {generator : Generator} {spec : FieldSpec} {e e' rest rest' : Entropy}
    {material material' : Material} (h : generator.produce spec e = .ok (material, rest))
    (h' : generator.produce spec e' = .ok (material', rest')) (field : String) :
    (material'.entries field).map Prod.fst = (material.entries field).map Prod.fst := by
  have hpair := (exists_pair_iff h).trans (exists_pair_iff h').symm
  cases material with
  | value bytes =>
    cases material' with
    | value bytes' => rfl
    | pair key' => simp at hpair
  | pair key =>
    cases material' with
    | value bytes' => simp at hpair
    | pair key' => rfl

namespace FieldReport

variable {reports reports' : List FieldReport}

/-- What reports tell alike is alike for all of them. -/
theorem map_eq_of_alike {α : Type} {f : FieldReport → α} (hf : ∀ r r', r.TellsLike r' → f r' = f r)
    (h : List.Forall₂ TellsLike reports reports') : reports'.map f = reports.map f := by
  induction h with
  | nil => rfl
  | cons hhead _ ih => rw [List.map_cons, List.map_cons, hf _ _ hhead, ih]

namespace TellsLike

variable {r r' : FieldReport} (h : r.TellsLike r')

include h

theorem field_eq : r'.field = r.field := by rw [field, field, h.spec]

theorem fatal?_eq : r'.fatal? = r.fatal? := by rw [fatal?, fatal?, h.decision, h.cause]

theorem outcome_eq : r'.outcome = r.outcome := by rw [outcome, outcome, h.field_eq, h.decision, h.cause]

theorem warning?_eq : r'.warning? = r.warning? := by rw [warning?, warning?, h.field_eq, h.decision, h.cause]

theorem wake_eq (minimum : Duration) : r'.wake minimum = r.wake minimum := by
  rw [FieldReport.wake_eq, FieldReport.wake_eq, h.outcome_eq, h.spec]

end TellsLike

end FieldReport

namespace Engine

variable {g : Engine} {o o' : ManagedObject} {now : Instant} {e e' : Entropy} {field : String}

/-- A field of objects that look alike is reported on alike, unless a search for a key is given up. -/
theorem tellsLike_report (h : o.LooksLike o')
    (hkeys : ∀ algorithm, (g.report o now field e).1.cause? ≠ some (.keySearchFailed algorithm))
    (hkeys' : ∀ algorithm, (g.report o' now field e').1.cause? ≠ some (.keySearchFailed algorithm)) :
    (g.report o now field e).1.TellsLike (g.report o' now field e').1 := by
  have hdecision := h.decide_eq g field now
  cases hmaterial : (g.decide o field now).producesMaterial with
  | false =>
    rw [report_of_not_producesMaterial e hmaterial, report_of_not_producesMaterial e' (hdecision ▸ hmaterial), hdecision,
      h.spec_eq]
    exact ⟨rfl, rfl, rfl, rfl, rfl⟩
  | true =>
    rw [report_of_producesMaterial e hmaterial, attempt] at hkeys ⊢
    rw [report_of_producesMaterial e' (hdecision ▸ hmaterial), hdecision, h.spec_eq, attempt] at hkeys' ⊢
    -- The settings alone tell whether there is anything to complain about.
    rcases g.generator.produce_cases (g.spec o field) e with
      ⟨cause, hcause, hproduce⟩ | ⟨hnone, ⟨⟨material, rest⟩, hproduce⟩ | ⟨algorithm, hproduce⟩⟩
    · rcases g.generator.produce_cases (g.spec o field) e' with ⟨cause', hcause', hproduce'⟩ | ⟨hnone', -⟩
      · obtain rfl : cause = cause' := Option.some.inj (hcause.symm.trans hcause')
        rw [hproduce, hproduce']
        exact ⟨rfl, rfl, rfl, rfl, rfl⟩
      · rw [hcause] at hnone'
        cases hnone'
    · rcases g.generator.produce_cases (g.spec o field) e' with
        ⟨cause', hcause', -⟩ | ⟨-, ⟨⟨material', rest'⟩, hproduce'⟩ | ⟨algorithm, hproduce'⟩⟩
      · rw [hnone] at hcause'
        cases hcause'
      · rw [hproduce, hproduce']
        exact ⟨rfl, rfl, rfl, rfl, Generator.names_eq_of_produce hproduce hproduce' _⟩
      · exact absurd (by rw [hproduce']; rfl) (hkeys' algorithm)
    · exact absurd (by rw [hproduce]; rfl) (hkeys algorithm)

/-- The fields of objects that look alike are all reported on alike, or the same one ends both cycles. -/
theorem reports_alike (h : o.LooksLike o') {fields : List String} :
    ∀ {e e' : Entropy}, g.KeysFound o now fields e → g.KeysFound o' now fields e' →
      (∃ reports rest reports' rest', g.reports o now fields e = .ok (reports, rest) ∧
        g.reports o' now fields e' = .ok (reports', rest') ∧ List.Forall₂ FieldReport.TellsLike reports reports') ∨
      ∃ failure, g.reports o now fields e = .error failure ∧ g.reports o' now fields e' = .error failure := by
  induction fields with
  | nil => exact fun _ _ => .inl ⟨[], _, [], _, rfl, rfl, .nil⟩
  | cons field fields ih =>
    rintro e e' ⟨hkeys, hlater⟩ ⟨hkeys', hlater'⟩
    have htells := tellsLike_report h hkeys hkeys'
    simp only [reports]
    rw [htells.fatal?_eq] at hlater' ⊢
    cases hfatal : (g.report o now field e).1.fatal? with
    | some cause => exact .inr ⟨_, rfl, rfl⟩
    | none =>
      rcases ih (hlater hfatal) (hlater' hfatal) with ⟨reports, rest, reports', rest', hok, hok', halike⟩ | ⟨failure, herror, herror'⟩
      · simp only [hok, hok']
        exact .inl ⟨_, _, _, _, rfl, rfl, .cons htells halike⟩
      · simp only [herror, herror', htells.warning?_eq]
        exact .inr ⟨_, rfl, rfl⟩

end Engine

/-! ## Evaluations that look alike -/

namespace Evaluation

variable {reports reports' : List FieldReport} (h : List.Forall₂ FieldReport.TellsLike reports reports')

include h

theorem written_eq_of_alike : written reports' = written reports := by
  have hpairs : ∀ reports : List FieldReport, written reports =
      ((reports.map fun r => (r.isWritten, r.field)).filter Prod.fst).map Prod.snd := fun reports => by
    rw [written, List.filter_map, List.map_map]
    rfl
  rw [hpairs, hpairs, FieldReport.map_eq_of_alike (fun r r' htells => by rw [htells.written, htells.field_eq]) h]

theorem notifications_eq_of_alike (announce : Bool) :
    reports'.filterMap FieldReport.warning? ++ successes announce reports' =
      reports.filterMap FieldReport.warning? ++ successes announce reports := by
  have hwarnings : reports'.map FieldReport.warning? = reports.map FieldReport.warning? :=
    FieldReport.map_eq_of_alike (fun _ _ htells => htells.warning?_eq) h
  have hmade : ∀ d : Decision, (reports'.map fun r => r.isWritten && r.decision = d) =
      reports.map fun r => r.isWritten && r.decision = d := fun d =>
    FieldReport.map_eq_of_alike (fun _ _ htells => by rw [htells.written, htells.decision]) h
  have hany : ∀ d : Decision, (reports'.any fun r => r.isWritten && r.decision = d) =
      reports.any fun r => r.isWritten && r.decision = d := fun d => by
    simpa only [List.any_map, Function.id_comp] using congrArg (List.any · id) (hmade d)
  rw [successes, successes, hany, hany]
  congr 1
  simpa only [List.filterMap_map, Function.id_comp] using congrArg (List.filterMap id) hwarnings

/-- The names that reports fill are the same. -/
theorem exists_names_iff_of_alike (name : String) :
    (∃ r ∈ reports', name ∈ r.names) ↔ ∃ r ∈ reports, name ∈ r.names := by
  have hnames : reports'.map FieldReport.names = reports.map FieldReport.names :=
    FieldReport.map_eq_of_alike (fun _ _ htells => htells.names) h
  have hmem : ∀ reports : List FieldReport, (∃ r ∈ reports, name ∈ r.names) ↔
      ∃ names ∈ reports.map FieldReport.names, name ∈ names := fun reports => by
    simp only [List.mem_map, exists_exists_and_eq_and]
  rw [hmem, hmem, hnames]

end Evaluation

namespace Engine

variable {g : Engine} {o o' : ManagedObject} {now : Instant} {e e' : Entropy} {reports reports' : List FieldReport}

/-- An entry is not empty after reports that fill it, and it is as it was after others. -/
theorem entries_cases (hreported : ∀ r ∈ reports, g.Reported o now r) (data : Entries) (name : String) :
    (∃ value, (Evaluation.entries data reports)[name]? = some value ∧ value.expose.size ≠ 0) ∧ (∃ r ∈ reports, name ∈ r.names) ∨
      (Evaluation.entries data reports)[name]? = data[name]? ∧ ¬ ∃ r ∈ reports, name ∈ r.names := by
  rcases Evaluation.getElem?_entries data reports name with ⟨hsame, hnone⟩ | ⟨r, hr, entry, hentry, rfl, hvalue⟩
  · refine .inr ⟨hsame, ?_⟩
    rintro ⟨r, hr, hname⟩
    obtain ⟨entry, hentry, rfl⟩ := List.mem_map.mp hname
    exact hnone r hr entry hentry rfl
  · exact .inl ⟨⟨entry.2, hvalue, (hreported r hr).size_ne_zero hentry⟩, r, hr, List.mem_map_of_mem hentry⟩

theorem entries_alike (h : o.LooksLike o') (halike : List.Forall₂ FieldReport.TellsLike reports reports')
    (hreported : ∀ r ∈ reports, g.Reported o now r) (hreported' : ∀ r ∈ reports', g.Reported o' now r) (name : String) :
    (name ∈ Evaluation.entries o'.data reports' ↔ name ∈ Evaluation.entries o.data reports) ∧
      ((Evaluation.entries o'.data reports')[name]?.any fun value => value.expose.size != 0) =
        (Evaluation.entries o.data reports)[name]?.any fun value => value.expose.size != 0 := by
  have hnames := Evaluation.exists_names_iff_of_alike halike name
  simp only [Std.ExtTreeMap.mem_iff_isSome_getElem?]
  rcases entries_cases hreported o.data name with ⟨⟨value, hvalue, hsize⟩, hfilled⟩ | ⟨hsame, hnot⟩
  · rcases entries_cases hreported' o'.data name with ⟨⟨value', hvalue', hsize'⟩, -⟩ | ⟨-, hnot'⟩
    · simp [hvalue, hvalue', bne_iff_ne.mpr hsize, bne_iff_ne.mpr hsize']
    · exact absurd (hnames.mpr hfilled) hnot'
  · rcases entries_cases hreported' o'.data name with ⟨-, hfilled'⟩ | ⟨hsame', -⟩
    · exact absurd (hnames.mp hfilled') hnot
    · rw [hsame, hsame', ← Std.ExtTreeMap.mem_iff_isSome_getElem?, ← Std.ExtTreeMap.mem_iff_isSome_getElem?]
      exact ⟨h.names name, h.filled name⟩

/-- Reports that tell the same add up to evaluations that look alike. -/
theorem looksLike_ofReports (h : o.LooksLike o') (halike : List.Forall₂ FieldReport.TellsLike reports reports')
    (hreported : ∀ r ∈ reports, g.Reported o now r) (hreported' : ∀ r ∈ reports', g.Reported o' now r)
    (policy : RotationPolicy) :
    (Evaluation.ofReports policy o now reports).LooksLike (Evaluation.ofReports policy o' now reports') := by
  have hfields : reports'.map FieldReport.field = reports.map FieldReport.field :=
    FieldReport.map_eq_of_alike (fun _ _ htells => htells.field_eq) halike
  have hwakes : reports'.map (FieldReport.wake policy.minimum) = reports.map (FieldReport.wake policy.minimum) :=
    FieldReport.map_eq_of_alike (fun _ _ htells => htells.wake_eq _) halike
  refine ⟨FieldReport.map_eq_of_alike (fun _ _ htells => htells.outcome_eq) halike,
    Evaluation.notifications_eq_of_alike halike _, congrArg Wake.earliest hwakes, ?_⟩
  show Option.Rel _ (Evaluation.written? o now reports) (Evaluation.written? o' now reports')
  rw [Evaluation.written?, Evaluation.written?, Evaluation.written_eq_of_alike halike, hfields, h.stamped_eq]
  split
  · exact .none
  · exact .some ⟨h.key, h.version, rfl, fun name => (entries_alike h halike hreported hreported' name).1,
      fun name => (entries_alike h halike hreported hreported' name).2⟩

/-- Searches for keys that are never given up are not given up in any cycle. -/
theorem keysFound_of_delivers {fields : List String} (h : ∀ field ∈ fields, g.generator.Delivers (g.spec o field)) :
    ∀ e, g.KeysFound o now fields e := by
  induction fields with
  | nil => exact fun _ => trivial
  | cons field fields ih =>
    refine fun e => ⟨fun algorithm hcause => ?_, fun _ => ih (fun f hf => h f (List.mem_cons_of_mem _ hf)) _⟩
    cases hmaterial : (g.decide o field now).producesMaterial with
    | false =>
      rw [report_of_not_producesMaterial e hmaterial] at hcause
      cases hcause
    | true =>
      rw [report_of_producesMaterial e hmaterial] at hcause
      cases hresult : (g.attempt (g.spec o field) e).1 with
      | untouched => simp [FieldReport.cause?, hresult] at hcause
      | produced material => simp [FieldReport.cause?, hresult] at hcause
      | failed cause =>
        obtain rfl : cause = .keySearchFailed algorithm := by simpa [FieldReport.cause?, hresult] using hcause
        exact h field List.mem_cons_self e algorithm (attempt_eq_failed_iff.mp hresult)

/-- **Secrets stay hidden.** Two objects that differ in the bytes of entries that are not empty at most are shown alike, and
cycles over them break down alike or answer alike, whatever the entropy of each, as long as no search for a key is given
up: they fail with the same failure, or they have the same outcomes, messages and delay, and write objects that look
alike, in which the same entries are replaced. -/
theorem answersLike_evaluate (h : o.LooksLike o') (hkeys : g.KeysFound o now o.fields e)
    (hkeys' : g.KeysFound o' now o'.fields e') :
    o'.shown = o.shown ∧ g.breaksDown o' now o'.fields = g.breaksDown o now o.fields ∧
      g.AnswersLike o o' (g.evaluate o now e) (g.evaluate o' now e') := by
  refine ⟨h.shown_eq, by rw [h.fields_eq, h.breaksDown_eq], ?_⟩
  rw [h.fields_eq] at hkeys'
  rcases reports_alike h hkeys hkeys' with ⟨reports, rest, reports', rest', hok, hok', halike⟩ | ⟨failure, herror, herror'⟩
  · have heval : g.evaluate o now e = .ok (.ofReports g.config.rotation o now reports, rest) := by rw [evaluate, hok]
    have heval' : g.evaluate o' now e' = .ok (.ofReports g.config.rotation o' now reports', rest') := by
      rw [evaluate, h.fields_eq, hok']
    have hlooks := looksLike_ofReports h halike (reported_of_reports hok).2 (reported_of_reports hok').2 g.config.rotation
    rw [heval, heval']
    refine ⟨hlooks, fun name => ?_⟩
    simp only [replaces_iff heval, replaces_iff heval', hlooks.outcomes, h.fills_iff]
  · have heval : g.evaluate o now e = .error failure := by rw [evaluate, herror]
    have heval' : g.evaluate o' now e' = .error failure := by rw [evaluate, h.fields_eq, herror']
    rw [heval, heval']
    rfl

/-- The object with the password that is due and the token to fill, with another password. -/
def otherPassword : ManagedObject :=
  { passwordAndToken with data := (∅ : Entries).insert "password" (.ofText "another") }

/-- Texts of two letters, and no gate. -/
def twoLetters : Engine := ⟨default, .standard "ab"⟩

theorem looksLike_otherPassword : passwordAndToken.LooksLike otherPassword := by
  refine ⟨rfl, rfl, rfl, fun name => ?_, fun name => ?_⟩
  · simp [otherPassword, passwordAndToken]
  · by_cases hname : name = "password"
    · subst hname
      decide +kernel
    · simp [ManagedObject.hasValue, otherPassword, passwordAndToken, Ne.symm hname]

/-- A password that is due is replaced beside a token that is filled: neither the old bytes nor the new ones show in anything
that is told. -/
theorem answersLike_otherPassword :
    otherPassword.shown.inline = passwordAndToken.shown.inline ∧
      twoLetters.AnswersLike passwordAndToken otherPassword
        (twoLetters.evaluate passwordAndToken (.ofSeconds 43200) ⟨fun _ => 0, 0⟩)
        (twoLetters.evaluate otherPassword (.ofSeconds 43200) ⟨UInt8.ofNat, 0⟩) ∧
      twoLetters.decide passwordAndToken "password" (.ofSeconds 43200) = .rotate := by
  have hkeys : twoLetters.KeysFound passwordAndToken (.ofSeconds 43200) passwordAndToken.fields ⟨fun _ => 0, 0⟩ :=
    keysFound_of_delivers (delivers_of_string (by decide +kernel)) _
  have hkeys' : twoLetters.KeysFound otherPassword (.ofSeconds 43200) otherPassword.fields ⟨UInt8.ofNat, 0⟩ :=
    keysFound_of_delivers (delivers_of_string (by decide +kernel)) _
  obtain ⟨hshown, -, hanswers⟩ := answersLike_evaluate looksLike_otherPassword hkeys hkeys'
  exact ⟨congrArg Shown.inline hshown, hanswers, by decide +kernel⟩

end Engine

end SecretRotation
