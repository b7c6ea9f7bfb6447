import SecretRotation.Proofs.Cycle.Quiet

/-!
# Fields that are due from some time on

A field is due from the time on at which its value has come of age. Whether it is replaced then is up to the gate alone.
Writing other fields makes no field due later: its stamp is kept, or pinned to it, and at most a fraction of a second is cut
off.

## Main definitions

* `Decision.IsDue`: the value is to be replaced, now or as soon as the gate opens.
* `Engine.DueFrom`: a field is due from some time on.
* `ManagedObject.PlainStamps`: all stamps that ages count from can be read and written.

## Main results

* `Engine.decide_cases`: what is decided for a field, in all cases.
* `Engine.DueFrom.isDue_decide`, `Engine.dueFrom_of_isDue`: from the time on that a field is due it is decided so.
* `Engine.DueFrom.of_stamped`: a field that is not written stays due.
* `ManagedObject.PlainStamps.of_stamped`: stamps that can be read are kept by a write.
-/

namespace SecretRotation

/-- The value is to be replaced, now or as soon as the gate opens. -/
def Decision.IsDue (d : Decision) : Prop := d = .rotate ∨ ∃ wait, d = .defer wait

theorem Decision.isDue_ofAge_iff {interval : Duration} {baseline now : Instant} {gate : Gate} :
    (ofAge interval baseline gate now).IsDue ↔ ¬ now.elapsed baseline < interval := by
  simp only [ofAge, IsDue]
  by_cases hyoung : now.elapsed baseline < interval
  · simp [hyoung]
  · by_cases hopen : gate.Open now <;> simp [hyoung, hopen]

theorem Decision.ofAge_eq_skip_iff {interval wait : Duration} {baseline now : Instant} {gate : Gate} :
    ofAge interval baseline gate now = .skip (some wait) ↔
      now.elapsed baseline < interval ∧ wait = interval - now.elapsed baseline := by
  simp only [ofAge]
  by_cases hyoung : now.elapsed baseline < interval
  · simpa [hyoung] using eq_comm
  · by_cases hopen : gate.Open now <;> simp [hyoung, hopen]

namespace ManagedObject

/-- All stamps that the ages of listed fields count from can be read and written. -/
structure PlainStamps (o : ManagedObject) : Prop where
  shared : ∀ t, o.stamp? = some t → t.Stampable
  own : ∀ field ∈ o.fields, ∀ t, o.fieldStamp? field = some t → t.Stampable

variable {o o' : ManagedObject} {field : String} {written : List String} {now : Instant}

theorem PlainStamps.canPin (h : o.PlainStamps) (field : String) : o.CanPin field := fun _ => h.shared

theorem PlainStamps.baseline (h : o.PlainStamps) (hfield : field ∈ o.fields) {t : Instant}
    (ht : o.baseline? field = some t) : t.Stampable := by
  cases hown : o.fieldStamp? field with
  | none => exact h.shared t (by rw [← baseline?_of_no_own hown, ht])
  | some own =>
    rw [baseline?_of_own hown] at ht
    exact h.own field hfield t (by rw [hown, ht])

/-- The own stamp of a field after a write is the present second, the one that it had, or the one that was pinned to it. -/
theorem PlainStamps.of_stamped (h : o.PlainStamps) (hstamped : o'.annotations = o.stamped o.fields written now)
    (hnow : now.Stampable) : o'.PlainStamps := by
  refine ⟨fun t ht => ?_, fun field hfield t ht => ?_⟩
  · rw [stamp?_of_stamped hstamped hnow.year, hnow.wholeSecond_eq] at ht
    exact Option.some.inj ht ▸ hnow.ofSeconds
  · rw [(sameSettings_of_stamped hstamped).fields_eq] at hfield
    by_cases hwritten : field ∈ written
    · rw [fieldStamp?_of_written hstamped hnow.year hwritten, hnow.wholeSecond_eq] at ht
      exact Option.some.inj ht ▸ hnow.ofSeconds
    · cases hleans : o.leansOnStamp field with
      | false =>
        rw [fieldStamp?_of_not_leaning hstamped hwritten (.inl hleans)] at ht
        exact h.own field hfield t ht
      | true =>
        cases hprevious : o.stamp? with
        | none =>
          rw [fieldStamp?_of_not_leaning hstamped hwritten (.inr hprevious)] at ht
          exact h.own field hfield t ht
        | some previous =>
          have hplain := h.shared previous hprevious
          rw [fieldStamp?_of_leaning hstamped hfield hwritten hleans hprevious, Instant.parse?_format hplain] at ht
          exact Option.some.inj ht ▸ hplain.ofSeconds

end ManagedObject

namespace Engine

variable {g : Engine} {o o' : ManagedObject} {field : String} {now due s : Instant}

/-- A field has a value that comes of age by some time, for an interval that is not too short. -/
structure DueFrom (g : Engine) (o : ManagedObject) (field : String) (due : Instant) : Prop where
  hasValue : o.hasValue field = true
  aged : ∃ interval baseline, (g.spec o field).interval = some interval ∧ ¬ interval < g.config.rotation.minimum ∧
    o.baseline? field = some baseline ∧ baseline.Ordinary ∧ baseline.count + interval.nanoseconds ≤ due.count

theorem decide_of_aged {interval : Duration} {baseline : Instant} (hvalue : o.hasValue field = true)
    (hinterval : (g.spec o field).interval = some interval) (hshort : ¬ interval < g.config.rotation.minimum)
    (hbaseline : o.baseline? field = some baseline) :
    g.decide o field now = .ofAge interval baseline g.config.gate now := by
  rw [decide_eq_of_interval hvalue hinterval hshort, hbaseline]

theorem DueFrom.isDue_decide (h : g.DueFrom o field due) (hdue : due.Ordinary) (hs : s.Ordinary) (hle : due ≤ s) :
    (g.decide o field s).IsDue := by
  obtain ⟨interval, baseline, hinterval, hshort, hbaseline, hordinary, haged⟩ := h.aged
  rw [decide_of_aged h.hasValue hinterval hshort hbaseline, Decision.isDue_ofAge_iff,
    Instant.elapsed_lt_iff hs hordinary]
  rw [Instant.le_iff_count hdue hs] at hle
  omega

/-- What is decided for a field hangs on its value, then on its interval, and then on its age. -/
theorem decide_cases (g : Engine) (o : ManagedObject) (field : String) (now : Instant) :
    o.hasValue field = false ∧ g.decide o field now = .generate ∨
      o.hasValue field = true ∧
        ((g.spec o field).interval = none ∧ g.decide o field now = .skip none ∨
          ∃ interval, (g.spec o field).interval = some interval ∧
            (interval < g.config.rotation.minimum ∧
                g.decide o field now = .belowMinimum interval g.config.rotation.minimum ∨
              ¬ interval < g.config.rotation.minimum ∧
                (o.baseline? field = none ∧ g.decide o field now = .skip (some interval) ∨
                  ∃ baseline, o.baseline? field = some baseline ∧
                    g.decide o field now = .ofAge interval baseline g.config.gate now))) := by
  cases hvalue : o.hasValue field with
  | false => exact .inl ⟨rfl, decide_eq_generate_iff.mpr hvalue⟩
  | true =>
    refine .inr ⟨rfl, ?_⟩
    cases hinterval : (g.spec o field).interval with
    | none => exact .inl ⟨rfl, by simp [decide, Decision.make, state, hvalue, hinterval]⟩
    | some interval =>
      refine .inr ⟨interval, rfl, ?_⟩
      by_cases hshort : interval < g.config.rotation.minimum
      · exact .inl ⟨hshort, by simp [decide, Decision.make, state, hvalue, hinterval, hshort]⟩
      · refine .inr ⟨hshort, ?_⟩
        have hdecide : g.decide o field now = _ := decide_eq_of_interval hvalue hinterval hshort
        cases hbaseline : o.baseline? field with
        | none => exact .inl ⟨rfl, by rw [hdecide, hbaseline]⟩
        | some baseline => exact .inr ⟨baseline, rfl, by rw [hdecide, hbaseline]⟩

/-- A field that is due has a value, an interval that is not too short, and an age. -/
theorem exists_aged_of_isDue (h : (g.decide o field now).IsDue) :
    o.hasValue field = true ∧ ∃ interval baseline, (g.spec o field).interval = some interval ∧
      ¬ interval < g.config.rotation.minimum ∧ o.baseline? field = some baseline ∧ ¬ now.elapsed baseline < interval := by
  obtain ⟨-, hd⟩ | ⟨hvalue, ⟨-, hd⟩ | ⟨interval, hinterval, ⟨-, hd⟩ | ⟨hshort, ⟨-, hd⟩ | ⟨baseline, hbaseline, hd⟩⟩⟩⟩ :=
    g.decide_cases o field now
  case inr.inr.inr.inr => exact ⟨hvalue, interval, baseline, hinterval, hshort, hbaseline, Decision.isDue_ofAge_iff.mp (hd ▸ h)⟩
  all_goals simp [hd, Decision.IsDue] at h

/-- No field is replaced after no time at all. -/
theorem interval_ne_zero {interval : Duration} (h : (g.spec o field).interval = some interval) :
    interval.nanoseconds ≠ 0 := by
  have hne : interval ≠ .zero := by simpa using (Option.filter_eq_some_iff.mp h).2
  rintro hzero
  exact hne (congrArg Duration.mk hzero)

/-- A field that is due now is due from now on. -/
theorem dueFrom_of_isDue (h : (g.decide o field now).IsDue) (hnow : now.Ordinary)
    (hstamp : ∀ t, o.baseline? field = some t → t.Ordinary) : g.DueFrom o field now := by
  obtain ⟨hvalue, interval, baseline, hinterval, hshort, hbaseline, hold⟩ := exists_aged_of_isDue h
  refine ⟨hvalue, interval, baseline, hinterval, hshort, hbaseline, hstamp _ hbaseline, ?_⟩
  have hpositive : interval.nanoseconds ≠ 0 := interval_ne_zero hinterval
  rw [Instant.elapsed_lt_iff hnow (hstamp _ hbaseline)] at hold
  omega

/-- A field that is not written stays due. -/
theorem DueFrom.of_stamped {written : List String} (h : g.DueFrom o field due)
    (hstamped : o'.annotations = o.stamped o.fields written now) (hfield : field ∈ o.fields) (hwritten : field ∉ written)
    (hvalue : o'.hasValue field = true) (hpin : o.CanPin field) : g.DueFrom o' field due := by
  obtain ⟨interval, baseline, hinterval, hshort, hbaseline, hordinary, haged⟩ := h.aged
  have hspec : g.spec o' field = g.spec o field := (ManagedObject.sameSettings_of_stamped hstamped).resolve_eq _ _
  obtain ⟨kept, hkept, hsame⟩ :=
    ManagedObject.exists_baseline?_of_not_written hstamped hfield hwritten h.hasValue hpin hbaseline
  have hcut := Instant.count_ofSeconds_seconds hordinary
  refine ⟨hvalue, interval, kept, by rw [hspec, hinterval], hshort, ManagedObject.baseline?_of_own hkept, ?_⟩
  rcases hsame with rfl | rfl
  · exact ⟨hordinary, haged⟩
  · exact ⟨Instant.ordinary_ofSeconds _, by omega⟩

/-- An object with a password to fill anew each hour, last written at the start of 1970, and with a token to fill. -/
def passwordAndToken : ManagedObject :=
  ⟨⟨"default", "db"⟩, none,
    (((∅ : Annotations).insert Annotations.autogenerate "password,token").insert
      (Annotations.fieldKey Annotations.rotate "password") "1h").insert Annotations.generatedAt "1970-01-01T00:00:00Z",
    (∅ : Entries).insert "password" (.ofText "old")⟩

end Engine

end SecretRotation
