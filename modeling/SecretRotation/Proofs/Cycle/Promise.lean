import SecretRotation.Proofs.Cycle.Due
import SecretRotation.Proofs.Cycle.Filling

/-!
# Promised replacements

A field that is skipped is told when it is due. Where no gate is in force, a cycle at that time replaces it, provided that
its age lasts: that there is a stamp to count from, and that it can be read again after it has been pinned to the field. A
value without a stamp is told the same again each time, as long as no other field is written.

## Main definitions

* `Engine.RotatesAt`: a cycle at an instant replaces a field.
* `ManagedObject.AgeLasts`: the age of a field lasts beyond a cycle.
* `Engine.WakesTo`: a cycle leads to the next one at the time that it has asked for.
* `Engine.Ticks`: cycles over an object ask for further ones.
* `Engine.Punctual`: promised replacements come at their time.

## Main results

* `Engine.decide_promised_iff`: what is decided at the promised time.
* `Engine.rotatesAt_iff`: a cycle over filled fields replaces those that are due, unless it breaks down.
* `Engine.exists_rotate_of_wakesTo`, `Engine.Ticks.exists_cycles`: cycles at the times that they ask for replace a field in
  the end, and there are such cycles without end.
* `Engine.punctual_of_disabled`: where no gate is in force, promises are kept exactly if ages last.
* `Engine.exists_promise_broken`: not all promises are kept.
-/

namespace SecretRotation

/-! ## Ages at the promised time -/

namespace Instant

variable {now b kept : Instant} {d : Duration}

/-- After the rest of an interval a value has come of age, if its age does not count from later than before. -/
theorem not_elapsed_lt_after_rest (hnow : now.Ordinary) (hb : b.Ordinary) (hkept : kept.Ordinary) (hpast : b ≤ now)
    (hle : kept.count ≤ b.count) : ¬ (now.advance (d - now.elapsed b)).elapsed kept < d := by
  have hage := nanoseconds_elapsed hnow hb
  rw [le_iff_count hb hnow] at hpast
  rw [elapsed_lt_iff (ordinary_advance hnow _) hkept, count_advance hnow, Duration.nanoseconds_sub]
  omega

theorem not_elapsed_lt_after_whole (hnow : now.Ordinary) : ¬ (now.advance d).elapsed (ofSeconds now.seconds) < d := by
  have hcut := count_ofSeconds_seconds hnow
  rw [elapsed_lt_iff (ordinary_advance hnow _) (ordinary_ofSeconds _), count_advance hnow]
  omega

/-- If the age starts again with the present second, then the rest of the interval is too short. -/
theorem elapsed_lt_after_restart (hnow : now.Ordinary) (hb : b.Ordinary) (hbefore : b.seconds < now.seconds)
    (hyoung : now.elapsed b < d) : (now.advance (d - now.elapsed b)).elapsed (ofSeconds now.seconds) < d := by
  have hage := nanoseconds_elapsed hnow hb
  rw [Duration.lt_def] at hyoung
  rw [elapsed_lt_iff (ordinary_advance hnow _) (ordinary_ofSeconds _), count_advance hnow, Duration.nanoseconds_sub,
    count_ofSeconds]
  simp only [count, Ordinary, Duration.perSecond] at *
  omega

theorem year_le_of_le {a b : Instant} (h : a.seconds ≤ b.seconds) : (Date.ofDay a.day).year ≤ (Date.ofDay b.day).year :=
  Date.year_ofDay_le (Int.ediv_le_ediv (by decide) h)

end Instant

namespace ManagedObject

/-- The age of a field lasts beyond a cycle, which writes the object or leaves it alone. If it does not count from anywhere,
then only a write can start it. If it counts from the stamp of the object, then a write pins this stamp to the field, which
can be read again if its year is not below zero. -/
structure AgeLasts (o : ManagedObject) (field : String) (written : Prop) : Prop where
  counts : o.baseline? field = none → written
  pinned : written → o.fieldStamp? field = none → ∀ t, o.stamp? = some t → 0 ≤ (Date.ofDay t.day).year

end ManagedObject

namespace Engine

variable {g : Engine} {o : ManagedObject} {now s : Instant} {e rest : Entropy} {v : Evaluation} {field : String}
  {d : Duration}

theorem isOpen_of_disabled (hgate : g.config.gate.enabled = false) (s : Instant) : g.config.gate.Open s := by
  intro henabled
  rw [hgate] at henabled
  cases henabled

/-- What the promise of a skipped field tells. -/
theorem exists_of_decide_eq_skip (h : g.decide o field now = .skip (some d)) :
    o.hasValue field = true ∧ ∃ interval, (g.spec o field).interval = some interval ∧
      ¬ interval < g.config.rotation.minimum ∧
      (o.baseline? field = none ∧ d = interval ∨
        ∃ baseline, o.baseline? field = some baseline ∧ now.elapsed baseline < interval ∧
          d = interval - now.elapsed baseline) := by
  obtain ⟨-, hd⟩ | ⟨hvalue, ⟨-, hd⟩ | ⟨interval, hinterval, ⟨-, hd⟩ | ⟨hshort, ⟨hnone, hd⟩ | ⟨baseline, hbaseline, hd⟩⟩⟩⟩ :=
    g.decide_cases o field now
  all_goals rw [hd] at h
  case inr.inr.inr.inl =>
    cases h
    exact ⟨hvalue, _, hinterval, hshort, .inl ⟨hnone, rfl⟩⟩
  case inr.inr.inr.inr =>
    obtain ⟨hyoung, rfl⟩ := Decision.ofAge_eq_skip_iff.mp h
    exact ⟨hvalue, interval, hinterval, hshort, .inr ⟨baseline, hbaseline, hyoung, rfl⟩⟩
  all_goals cases h

/-- Where no gate is in force, a field is replaced exactly if it has come of age. -/
theorem decide_eq_rotate_iff_of_disabled (hgate : g.config.gate.enabled = false) {interval : Duration}
    (hvalue : o.hasValue field = true) (hinterval : (g.spec o field).interval = some interval)
    (hshort : ¬ interval < g.config.rotation.minimum) :
    g.decide o field s = .rotate ↔ ∃ baseline, o.baseline? field = some baseline ∧ ¬ s.elapsed baseline < interval := by
  rw [decide_eq_rotate_iff]
  constructor
  · rintro ⟨-, -, interval', baseline, hinterval', -, hbaseline, hold⟩
    rw [hinterval] at hinterval'
    exact ⟨baseline, hbaseline, Option.some.inj hinterval' ▸ hold⟩
  · rintro ⟨baseline, hbaseline, hold⟩
    exact ⟨hvalue, isOpen_of_disabled hgate s, interval, baseline, hinterval, hshort, hbaseline, hold⟩

/-- A field that has an age counts it from its own stamp, or else from that of the object. -/
theorem eq_baseline_of_no_own {b : Instant} (hb : o.baseline? field = some b) (hown : o.fieldStamp? field = none) :
    o.stamp? = some b := by
  rw [← ManagedObject.baseline?_of_no_own hown, hb]

/-- An age that lasts counts on from where it did, if need be from the start of that second. -/
theorem exists_kept_of_ageLasts {changed : ManagedObject} {written : List String} {b : Instant}
    (hstamped : changed.annotations = o.stamped o.fields written now) (hnow : now.Stampable) (hfield : field ∈ o.fields)
    (hwritten : field ∉ written) (hvalue : o.hasValue field = true) (hb : o.baseline? field = some b) (hordinary : b.Ordinary)
    (hle : b ≤ now) (hlasts : o.AgeLasts field True) :
    ∃ kept, changed.baseline? field = some kept ∧ kept.Ordinary ∧ kept.count ≤ b.count := by
  have hpin : o.CanPin field := by
    intro hown t ht
    have hyear := hlasts.pinned trivial hown t ht
    rw [eq_baseline_of_no_own hb hown, Option.some.injEq] at ht
    exact ht ▸ ⟨hordinary, ht ▸ hyear, Int.le_trans (Instant.year_le_of_le (Instant.seconds_le_of_le hle)) hnow.year.2⟩
  obtain ⟨kept, hkept, hsame⟩ :=
    ManagedObject.exists_baseline?_of_not_written hstamped hfield hwritten hvalue hpin hb
  refine ⟨kept, ManagedObject.baseline?_of_own hkept, ?_⟩
  rcases hsame with rfl | rfl
  · exact ⟨hordinary, Int.le_refl _⟩
  · exact ⟨Instant.ordinary_ofSeconds _, (Instant.count_ofSeconds_seconds hordinary).1⟩

/-- An age that does not last counts from a stamp of the object that cannot be read again, and so it starts anew. -/
theorem baseline?_of_not_ageLasts {changed : ManagedObject} {written : List String} {b : Instant}
    (hstamped : changed.annotations = o.stamped o.fields written now) (hnow : now.Stampable) (hfield : field ∈ o.fields)
    (hwritten : field ∉ written) (hvalue : o.hasValue field = true) (hb : o.baseline? field = some b)
    (hlasts : ¬ o.AgeLasts field True) :
    changed.baseline? field = some (.ofSeconds now.seconds) ∧ b.seconds < now.seconds := by
  have hbroken : o.fieldStamp? field = none ∧ ¬ 0 ≤ (Date.ofDay b.day).year := by
    by_contra hall
    refine hlasts ⟨fun _ => trivial, fun _ hown t ht => ?_⟩
    rw [eq_baseline_of_no_own hb hown, Option.some.injEq] at ht
    exact ht ▸ not_not.mp fun hyear => hall ⟨hown, hyear⟩
  obtain ⟨hown, hyear⟩ := hbroken
  rw [← hnow.wholeSecond_eq]
  refine ⟨ManagedObject.baseline?_of_unreadable hstamped hnow.year hfield hwritten hvalue hown
    (eq_baseline_of_no_own hb hown) fun h => hyear h.1, ?_⟩
  exact Int.not_le.mp fun hseconds => hyear (Int.le_trans hnow.year.1 (Instant.year_le_of_le hseconds))

/-- Where another field was written, the field is replaced at the promised time exactly if its age has lasted. -/
theorem decide_promised_iff_of_stamped {changed : ManagedObject} {written : List String}
    (hgate : g.config.gate.enabled = false) (hstamped : changed.annotations = o.stamped o.fields written now)
    (hnow : now.Stampable) (hfield : field ∈ o.fields) (hwritten : field ∉ written) (hvalue : changed.hasValue field = true)
    (hpast : ∀ t, o.baseline? field = some t → t.Ordinary ∧ t ≤ now) (hskip : g.decide o field now = .skip (some d)) :
    g.decide changed field (now.advance d) = .rotate ↔ o.AgeLasts field True := by
  obtain ⟨hvalued, interval, hinterval, hshort, hpromise⟩ := exists_of_decide_eq_skip hskip
  have hspec : g.spec changed field = g.spec o field := (ManagedObject.sameSettings_of_stamped hstamped).resolve_eq _ _
  rw [decide_eq_rotate_iff_of_disabled hgate hvalue (hspec ▸ hinterval) hshort]
  rcases hpromise with ⟨hnone, rfl⟩ | ⟨b, hb, hyoung, rfl⟩
  · -- The write has started the age.
    have hstarted := ManagedObject.baseline?_of_no_baseline hstamped hnow.year hwritten hnone
    rw [hnow.wholeSecond_eq] at hstarted
    refine iff_of_true ⟨_, hstarted, Instant.not_elapsed_lt_after_whole hnow.ordinary⟩ ⟨fun _ => trivial, ?_⟩
    intro _ hown t ht
    rw [ManagedObject.baseline?_of_no_own hown, ht] at hnone
    cases hnone
  obtain ⟨hordinary, hle⟩ := hpast b hb
  by_cases hlasts : o.AgeLasts field True
  · obtain ⟨kept, hkept, hplain, hearlier⟩ :=
      exists_kept_of_ageLasts hstamped hnow hfield hwritten hvalued hb hordinary hle hlasts
    exact iff_of_true
      ⟨kept, hkept, Instant.not_elapsed_lt_after_rest hnow.ordinary hordinary hplain hle hearlier⟩ hlasts
  · obtain ⟨hrestarted, hbefore⟩ := baseline?_of_not_ageLasts hstamped hnow hfield hwritten hvalued hb hlasts
    refine iff_of_false (fun ⟨baseline, hbaseline, hold⟩ => hold ?_) hlasts
    rw [hrestarted, Option.some.injEq] at hbaseline
    exact hbaseline ▸ Instant.elapsed_lt_after_restart hnow.ordinary hordinary hbefore hyoung

/-- At the promised time the field is replaced exactly if its age has lasted. -/
theorem decide_promised_iff (hgate : g.config.gate.enabled = false) (heval : g.evaluate o now e = .ok (v, rest))
    (hnow : now.Stampable) (hfield : field ∈ o.fields)
    (hpast : ∀ t, o.baseline? field = some t → t.Ordinary ∧ t ≤ now) (hskip : g.decide o field now = .skip (some d)) :
    g.decide (v.object.getD o) field (now.advance d) = .rotate ↔ o.AgeLasts field v.object.isSome := by
  have hvalue := hasValue_of_evaluate heval field hfield
  obtain ⟨reports, hfields, hreported, rfl⟩ := exists_reports_of_evaluate heval
  cases hobject : (Evaluation.ofReports g.config.rotation o now reports).object with
  | none =>
    -- The object is as it was, so that the age lasts if there is one.
    obtain ⟨hvalued, interval, hinterval, hshort, hpromise⟩ := exists_of_decide_eq_skip hskip
    rw [Option.getD_none, decide_eq_rotate_iff_of_disabled hgate hvalued hinterval hshort]
    rcases hpromise with ⟨hnone, rfl⟩ | ⟨b, hb, -, rfl⟩
    · refine iff_of_false (by simp [hnone]) fun hlasts => ?_
      simpa using hlasts.counts hnone
    · obtain ⟨hordinary, hle⟩ := hpast b hb
      refine iff_of_true ⟨b, hb, ?_⟩ ⟨by simp [hb], by simp⟩
      exact Instant.not_elapsed_lt_after_rest hnow.ordinary hordinary hordinary hle (Int.le_refl _)
  | some changed =>
    rw [hobject, Option.getD_some] at hvalue
    obtain ⟨-, -, -, hannotations, -⟩ := Evaluation.of_object_eq_some hobject
    have hwritten : field ∉ Evaluation.written reports := not_mem_written hreported (by rw [hskip]; rfl)
    simpa using decide_promised_iff_of_stamped hgate (hfields ▸ hannotations) hnow hfield hwritten hvalue hpast hskip

/-! ## The cycle at the promised time -/

/-- A cycle leaves settings alone. -/
theorem sameSettings_getD_object (heval : g.evaluate o now e = .ok (v, rest)) : o.SameSettings (v.object.getD o) := by
  obtain ⟨reports, -, -, rfl⟩ := exists_reports_of_evaluate heval
  cases hobject : (Evaluation.ofReports g.config.rotation o now reports).object with
  | none => exact .refl o
  | some changed =>
    obtain ⟨-, -, -, hannotations, -⟩ := Evaluation.of_object_eq_some hobject
    exact ManagedObject.sameSettings_of_stamped hannotations

/-- A cycle at an instant goes through and replaces a field, whatever the entropy. -/
def RotatesAt (g : Engine) (o : ManagedObject) (s : Instant) (field : String) : Prop :=
  ∀ e, ∃ v rest, g.Ends o s e (.ok (v, rest)) ∧ (∃ f ∈ v.outcomes, f.field = field) ∧
    ∀ f ∈ v.outcomes, f.field = field → f.decision = .rotate

theorem fatal?_report_of_hasValue (h : o.hasValue field = true) (s : Instant) (e : Entropy) :
    (g.report o s field e).1.fatal? = none := by
  have hdecision : (g.report o s field e).1.decision = g.decide o field s := by
    simp only [report]
    split <;> rfl
  have hnot : g.decide o field s ≠ .generate := by simp [decide_eq_generate_iff, h]
  rw [FieldReport.fatal?, hdecision]
  cases hdecide : g.decide o field s <;> first | rfl | exact absurd hdecide hnot

theorem exists_reports_of_hasValue {fields : List String} (h : ∀ field ∈ fields, o.hasValue field = true) (s : Instant)
    (e : Entropy) : ∃ reports rest, g.reports o s fields e = .ok (reports, rest) := by
  induction fields generalizing e with
  | nil => exact ⟨[], e, rfl⟩
  | cons field fields ih =>
    obtain ⟨reports, rest, hreports⟩ := ih (fun f hf => h f (List.mem_cons_of_mem _ hf)) (g.report o s field e).2
    refine ⟨(g.report o s field e).1 :: reports, rest, ?_⟩
    simp only [Engine.reports, fatal?_report_of_hasValue (h field List.mem_cons_self), hreports]

/-- A cycle over filled fields replaces those for which it is decided so, unless it breaks down. -/
theorem rotatesAt_iff (hvalues : ∀ field ∈ o.fields, o.hasValue field = true) (hfield : field ∈ o.fields) :
    g.RotatesAt o s field ↔ g.decide o field s = .rotate ∧ g.breaksDown o s o.fields = false := by
  constructor
  · intro h
    obtain ⟨v, rest, hends, ⟨f, hf, rfl⟩, hrotate⟩ := h ⟨fun _ => 0, 0⟩
    exact ⟨((outcomes_of_evaluate hends.2).2 f hf).symm.trans (hrotate f hf rfl), hends.1⟩
  · rintro ⟨hrotate, hstands⟩ e
    obtain ⟨reports, rest, hreports⟩ := exists_reports_of_hasValue (g := g) hvalues s e
    have heval : g.evaluate o s e = .ok (.ofReports g.config.rotation o s reports, rest) := by
      simp only [evaluate, hreports]
    obtain ⟨hfields, hdecisions⟩ := outcomes_of_evaluate heval
    refine ⟨_, rest, ⟨hstands, heval⟩, List.mem_map.mp (hfields ▸ hfield), fun f hf hname => ?_⟩
    rw [hdecisions f hf, hname, hrotate]

/-! ## Cycles at the requested wake-ups -/

/-- The next cycle runs at the time that this one has asked for, over the object that it has left. -/
def WakesTo (g : Engine) (o : ManagedObject) (now : Instant) (o' : ManagedObject) (next : Instant) : Prop :=
  ∃ e v rest d, g.Ends o now e (.ok (v, rest)) ∧ v.requeueAfter = some d ∧ o' = v.object.getD o ∧ next = now.advance d

theorem eq_rotate_of_isDue (hgate : g.config.gate.enabled = false) (h : (g.decide o field s).IsDue) :
    g.decide o field s = .rotate := by
  obtain ⟨hvalue, haged⟩ := exists_aged_of_isDue h
  exact decide_eq_rotate_iff.mpr ⟨hvalue, isOpen_of_disabled hgate s, haged⟩

/-- A field asks to be looked at at once only for a replacement that failed, where intervals may be of any length, or for a
gate that opens in no time. -/
theorem Reported.wake_eq_zero_iff {r : FieldReport} (hr : g.Reported o now r) :
    r.wake g.config.rotation.minimum = some .zero ↔
      g.config.rotation.minimum = .zero ∧ r.decision = .rotate ∧ r.cause?.isSome = true ∨ r.decision = .defer .zero := by
  have hinterval : r.spec.interval ≠ some .zero := fun h => interval_ne_zero (hr.spec ▸ h) rfl
  have hfilter : r.spec.interval.filter (g.config.rotation.minimum ≤ ·) ≠ some .zero := fun h =>
    hinterval (Option.filter_eq_some_iff.mp h).1
  have hdecision := hr.decision
  cases hd : r.decision with
  | generate => simp [FieldReport.wake, hd, hfilter]
  | rotate => cases hresult : r.result <;> simp [FieldReport.wake, FieldReport.cause?, hd, hresult, hfilter]
  | defer wait => simp [FieldReport.wake, hd]
  | skip nextDue =>
    have hnext : nextDue ≠ some .zero := by
      rintro rfl
      obtain ⟨-, interval, hsome, -, ⟨-, hzero⟩ | ⟨baseline, -, hyoung, hzero⟩⟩ :=
        exists_of_decide_eq_skip (hdecision.symm.trans hd)
      · exact interval_ne_zero hsome (congrArg Duration.nanoseconds hzero.symm)
      · have hrest := congrArg Duration.nanoseconds hzero
        rw [Duration.lt_def] at hyoung
        rw [Duration.nanoseconds_sub, Duration.nanoseconds_zero] at hrest
        omega
    simp [FieldReport.wake, hd, hnext]
  | belowMinimum interval minimum => simp [FieldReport.wake, hd]

/-- Where no gate is in force, no field asks to be looked at at once. -/
theorem Reported.wake_pos {r : FieldReport} (hr : g.Reported o now r) (hgate : g.config.gate.enabled = false)
    (hminimum : 0 < g.config.rotation.minimum.nanoseconds) (h : r.wake g.config.rotation.minimum = some d) :
    0 < d.nanoseconds := by
  refine Nat.pos_of_ne_zero fun hzero => ?_
  obtain rfl : d = .zero := congrArg Duration.mk hzero
  rcases hr.wake_eq_zero_iff.mp h with ⟨hnone, -⟩ | hdefer
  · rw [hnone] at hminimum
    exact absurd hminimum (by decide)
  · have hdue := eq_rotate_of_isDue hgate (.inr ⟨.zero, hr.decision.symm.trans hdefer⟩)
    rw [← hr.decision, hdefer] at hdue
    cases hdue

/-- A field that is to be due from some time on, and whose stamp can be read again after a write. -/
structure Awaits (g : Engine) (o : ManagedObject) (field : String) (due : Instant) : Prop where
  listed : field ∈ o.fields
  dueFrom : g.DueFrom o field due
  canPin : o.CanPin field

/-- A cycle that does not replace the field does not put off when it is due. -/
theorem Awaits.of_wakesTo {o' : ManagedObject} {due next : Instant} (h : g.Awaits o field due)
    (hwakes : g.WakesTo o now o' next) (hnot : g.decide o field now ≠ .rotate) : g.Awaits o' field due := by
  obtain ⟨e, v, rest, d, hends, -, rfl, -⟩ := hwakes
  have hvalue := hasValue_of_evaluate hends.2 field h.listed
  obtain ⟨reports, hfields, hreported, rfl⟩ := exists_reports_of_evaluate hends.2
  cases hobject : (Evaluation.ofReports g.config.rotation o now reports).object with
  | none => exact h
  | some changed =>
    rw [hobject, Option.getD_some] at hvalue
    obtain ⟨-, -, -, hannotations, -⟩ := Evaluation.of_object_eq_some hobject
    rw [hfields] at hannotations
    have hmaterial : (g.decide o field now).producesMaterial = false := by
      refine Bool.eq_false_iff.mpr fun hmaterial => ?_
      rcases Decision.eq_generate_or_rotate hmaterial with hgenerate | hrotate
      · rw [decide_eq_generate_iff, h.dueFrom.hasValue] at hgenerate
        cases hgenerate
      · exact hnot hrotate
    have hwritten := not_mem_written hreported hmaterial
    obtain ⟨interval, baseline, -, -, hbaseline, -⟩ := h.dueFrom.aged
    obtain ⟨kept, hkept, -⟩ := ManagedObject.exists_baseline?_of_not_written hannotations h.listed hwritten
      h.dueFrom.hasValue h.canPin hbaseline
    refine ⟨(ManagedObject.sameSettings_of_stamped hannotations).fields_eq ▸ h.listed,
      h.dueFrom.of_stamped hannotations h.listed hwritten hvalue h.canPin, fun hown => ?_⟩
    rw [Option.getD_some, hkept] at hown
    cases hown

theorem WakesTo.count_lt {o' : ManagedObject} {next : Instant} (h : g.WakesTo o now o' next) (hnow : now.Ordinary)
    (hgate : g.config.gate.enabled = false) (hminimum : 0 < g.config.rotation.minimum.nanoseconds) :
    next.Ordinary ∧ now.count < next.count := by
  obtain ⟨e, v, rest, d, hends, hrequeue, -, rfl⟩ := h
  obtain ⟨reports, -, hreported, rfl⟩ := exists_reports_of_evaluate hends.2
  obtain ⟨r, hr, hwake⟩ := List.mem_map.mp ((Wake.isEarliest_earliest _).mem d hrequeue)
  have hpositive := (hreported r hr).wake_pos hgate hminimum hwake
  refine ⟨Instant.ordinary_advance hnow d, ?_⟩
  rw [Instant.count_advance hnow]
  omega

/-- Cycles at the times that they ask for replace a field in the end. -/
theorem exists_rotate_of_wakesTo (hgate : g.config.gate.enabled = false)
    (hminimum : 0 < g.config.rotation.minimum.nanoseconds) {objects : Nat → ManagedObject} {times : Nat → Instant}
    (hwakes : ∀ n, g.WakesTo (objects n) (times n) (objects (n + 1)) (times (n + 1))) (hstart : (times 0).Ordinary)
    {due : Instant} (hdue : due.Ordinary) (hawaits : g.Awaits (objects 0) field due) :
    ∃ n, g.decide (objects n) field (times n) = .rotate := by
  by_contra hnever
  have hnot : ∀ n, g.decide (objects n) field (times n) ≠ .rotate := fun n hrotate => hnever ⟨n, hrotate⟩
  -- Each cycle is later than the one before, and none of them puts off when the field is due.
  have hrun : ∀ n : Nat, g.Awaits (objects n) field due ∧ (times n).Ordinary ∧ (times 0).count + n ≤ (times n).count := by
    intro n
    induction n with
    | zero => exact ⟨hawaits, hstart, by omega⟩
    | succ n ih =>
      obtain ⟨hwaits, hordinary, hcount⟩ := ih
      obtain ⟨hnext, hlater⟩ := (hwakes n).count_lt hordinary hgate hminimum
      exact ⟨hwaits.of_wakesTo (hwakes n) (hnot n), hnext, by omega⟩
  obtain ⟨n, hn⟩ : ∃ n : Nat, (due.count - (times 0).count).toNat = n := ⟨_, rfl⟩
  obtain ⟨hwaits, hordinary, hcount⟩ := hrun n
  have hreached : due ≤ times n := by
    rw [Instant.le_iff_count hdue hordinary]
    omega
  exact hnot n (eq_rotate_of_isDue hgate (hwaits.dueFrom.isDue_decide hdue hordinary hreached))

/-- Cycles over an object ask for further ones, for the sake of a field that is replaced from time to time: all fields have
values, and none of them can break a cycle down. -/
structure Ticks (g : Engine) (o : ManagedObject) (field : String) : Prop where
  listed : field ∈ o.fields
  filled : ∀ f ∈ o.fields, o.hasValue f = true
  interval : ∃ interval, (g.spec o field).interval = some interval ∧ ¬ interval < g.config.rotation.minimum
  intervals : ∀ f ∈ o.fields, FieldSpec.intervalBreaks o.annotations f = false
  lengths : ∀ f ∈ o.fields,
    ((g.spec o f).kind.toOption.any fun kind => g.generator.overflows kind (g.spec o f).length) = false

theorem Ticks.stands (h : g.Ticks o field) (hgate : g.config.gate.enabled = false) (s : Instant) :
    g.breaksDown o s o.fields = false :=
  breaksDown_eq_false fun f hf =>
    breaksDownAt_eq_false_iff.mpr ⟨h.intervals f hf, strandedAt_of_disabled hgate, fun _ => h.lengths f hf⟩

theorem Ticks.of_evaluate (h : g.Ticks o field) (heval : g.evaluate o now e = .ok (v, rest)) :
    g.Ticks (v.object.getD o) field := by
  have hsettings := sameSettings_getD_object heval
  have hspec : ∀ f, g.spec (v.object.getD o) f = g.spec o f := hsettings.resolve_eq _
  refine ⟨?_, ?_, ?_, ?_, ?_⟩
  · rw [hsettings.fields_eq]
    exact h.listed
  · rw [hsettings.fields_eq]
    exact hasValue_of_evaluate heval
  · rw [hspec]
    exact h.interval
  · simp only [hsettings.fields_eq, hsettings.intervalBreaks_eq]
    exact h.intervals
  · simp only [hsettings.fields_eq, hspec]
    exact h.lengths

/-- A field with a value that is replaced from time to time always wants to be looked at again. -/
theorem Reported.exists_wake {r : FieldReport} (hr : g.Reported o now r) (hvalue : o.hasValue r.field = true)
    {interval : Duration} (hinterval : (g.spec o r.field).interval = some interval)
    (hshort : ¬ interval < g.config.rotation.minimum) : ∃ d, r.wake g.config.rotation.minimum = some d := by
  by_cases hdue : g.Due o r.field now
  · have hrotate : r.decision = .rotate := hr.decision.trans (decide_eq_rotate_iff.mpr hdue)
    have hlong : g.config.rotation.minimum ≤ interval := Nat.not_lt.mp hshort
    have hallowed : r.spec.interval.filter (g.config.rotation.minimum ≤ ·) = some interval := by
      simp [hr.spec, hinterval, hlong]
    cases hresult : r.result <;> simp [FieldReport.wake, hrotate, hresult, hallowed]
  · exact ⟨_, hr.wake_eq hvalue hinterval hshort hdue _⟩

theorem Ticks.exists_wakesTo (h : g.Ticks o field) (hgate : g.config.gate.enabled = false) (now : Instant) :
    ∃ o' next, g.WakesTo o now o' next ∧ g.Ticks o' field := by
  obtain ⟨reports, rest, hreports⟩ := exists_reports_of_hasValue (g := g) h.filled now ⟨fun _ => 0, 0⟩
  have heval : g.evaluate o now ⟨fun _ => 0, 0⟩ = .ok (.ofReports g.config.rotation o now reports, rest) := by
    simp only [evaluate, hreports]
  obtain ⟨hfields, hreported⟩ := reported_of_reports hreports
  obtain ⟨r, hr, rfl⟩ := List.mem_map.mp (hfields ▸ h.listed)
  obtain ⟨interval, hinterval, hshort⟩ := h.interval
  obtain ⟨d, hd⟩ := (hreported r hr).exists_wake (h.filled _ h.listed) hinterval hshort
  -- The earliest of the wake-ups is there if that of the field is.
  obtain ⟨wait, hwait, -⟩ := (Wake.isEarliest_earliest _).le d (List.mem_map.mpr ⟨r, hr, hd⟩)
  exact ⟨_, now.advance wait, ⟨_, _, rest, wait, ⟨h.stands hgate now, heval⟩, hwait, rfl, rfl⟩, h.of_evaluate heval⟩

/-- Cycles at the times that they ask for go on for ever. -/
theorem Ticks.exists_cycles (h : g.Ticks o field) (hgate : g.config.gate.enabled = false) (now : Instant) :
    ∃ (objects : Nat → ManagedObject) (times : Nat → Instant), objects 0 = o ∧ times 0 = now ∧
      ∀ n, g.WakesTo (objects n) (times n) (objects (n + 1)) (times (n + 1)) := by
  have hstep : ∀ place : { o : ManagedObject // g.Ticks o field } × Instant,
      ∃ place' : { o : ManagedObject // g.Ticks o field } × Instant, g.WakesTo place.1 place.2 place'.1 place'.2 := by
    rintro ⟨⟨o, ho⟩, now⟩
    obtain ⟨o', next, hwakes, hticks⟩ := ho.exists_wakesTo hgate now
    exact ⟨⟨⟨o', hticks⟩, next⟩, hwakes⟩
  choose follow hfollow using hstep
  refine ⟨fun n => (follow^[n] ⟨⟨o, h⟩, now⟩).1, fun n => (follow^[n] ⟨⟨o, h⟩, now⟩).2, rfl, rfl, fun n => ?_⟩
  simp only [Function.iterate_succ_apply']
  exact hfollow _

/-! ## Promises -/

/-- A field that is skipped is replaced at the promised time, if its age lasts and the cycle does not break down then, and not
otherwise. Where ages last, cycles at the times that they ask for skip no field for ever. -/
structure Punctual (g : Engine) : Prop where
  kept : ∀ (o : ManagedObject) (now : Instant) (e rest : Entropy) (v : Evaluation) (f : FieldOutcome) (d : Duration),
    now.Stampable → g.Ends o now e (.ok (v, rest)) → f ∈ v.outcomes → f.decision = .skip (some d) →
    (∀ t, o.baseline? f.field = some t → t.Ordinary ∧ t ≤ now) →
      (g.RotatesAt (v.object.getD o) (now.advance d) f.field ↔
        o.AgeLasts f.field v.object.isSome ∧
          g.breaksDown (v.object.getD o) (now.advance d) (v.object.getD o).fields = false)
  reached : ∀ (objects : Nat → ManagedObject) (times : Nat → Instant) (field : String) (interval : Duration)
    (baseline : Instant), 0 < g.config.rotation.minimum.nanoseconds →
    (∀ n, g.WakesTo (objects n) (times n) (objects (n + 1)) (times (n + 1))) → (times 0).Ordinary →
    field ∈ (objects 0).fields → (objects 0).hasValue field = true →
    (g.spec (objects 0) field).interval = some interval → g.config.rotation.minimum ≤ interval →
    (objects 0).baseline? field = some baseline → baseline.Ordinary → (objects 0).CanPin field →
      ∃ n, g.decide (objects n) field (times n) = .rotate

/-- **Promised replacements.** Where no gate is in force, they come at their time exactly if the ages of their fields last and
nothing breaks down. -/
theorem punctual_of_disabled (hgate : g.config.gate.enabled = false) : g.Punctual := by
  constructor
  · intro o now e rest v f d hnow hends hf hskip hpast
    obtain ⟨hfields, hdecisions⟩ := outcomes_of_evaluate hends.2
    have hfield : f.field ∈ o.fields := hfields ▸ List.mem_map_of_mem hf
    have hsame := (sameSettings_getD_object hends.2).fields_eq
    rw [rotatesAt_iff (fun field hmem => hasValue_of_evaluate hends.2 field (hsame ▸ hmem)) (hsame ▸ hfield),
      decide_promised_iff hgate hends.2 hnow hfield hpast ((hdecisions f hf).symm.trans hskip)]
  · intro objects times field interval baseline hminimum hwakes hstart hfield hvalue hinterval hallowed hbaseline hordinary
      hpin
    have hshort : ¬ interval < g.config.rotation.minimum := Nat.not_lt.mpr hallowed
    have hdue : (baseline.advance interval).Ordinary := Instant.ordinary_advance hordinary interval
    refine exists_rotate_of_wakesTo hgate hminimum hwakes hstart hdue ⟨hfield, ⟨hvalue, ?_⟩, hpin⟩
    exact ⟨interval, baseline, hinterval, hshort, hbaseline, hordinary, Int.le_of_eq (Instant.count_advance hordinary _).symm⟩

/-- The password has been there for half an hour and is skipped for another one. The token is filled meanwhile, and after that
time the password is replaced. -/
theorem punctual_of_disabled_password :
    ∃ done ∈ (ungated.evaluate passwordAndToken (.ofSeconds 1800) ⟨fun _ => 0, 0⟩).toOption,
      ⟨"password", .skip (some (.ofSeconds 1800)), none⟩ ∈ done.1.outcomes ∧
        ungated.RotatesAt (done.1.object.getD passwordAndToken) (.ofSeconds 3600) "password" := by
  have hcycle : ∃ done ∈ (ungated.evaluate passwordAndToken (.ofSeconds 1800) ⟨fun _ => 0, 0⟩).toOption,
      ⟨"password", .skip (some (.ofSeconds 1800)), none⟩ ∈ done.1.outcomes ∧
        ungated.breaksDown (done.1.object.getD passwordAndToken) (.ofSeconds 3600)
          (done.1.object.getD passwordAndToken).fields = false := by
    decide +kernel
  obtain ⟨done, hdone, hskipped, hstands⟩ := hcycle
  have hstamps : passwordAndToken.fieldStamp? "password" = none ∧ passwordAndToken.stamp? = some (.ofSeconds 0) := by
    decide +kernel
  have hbaseline : passwordAndToken.baseline? "password" = some (.ofSeconds 0) := by
    rw [ManagedObject.baseline?_of_no_own hstamps.1, hstamps.2]
  have hlasts : passwordAndToken.AgeLasts "password" done.1.object.isSome := by
    refine ⟨by simp [hbaseline], fun _ _ t ht => ?_⟩
    rw [hstamps.2] at ht
    obtain rfl := Option.some.inj ht
    decide +kernel
  refine ⟨done, hdone, hskipped, ?_⟩
  refine ((punctual_of_disabled rfl).kept _ (.ofSeconds 1800) _ _ _ _ _ ⟨Instant.ordinary_ofSeconds _, by decide +kernel⟩
    ⟨by decide +kernel, eq_ok_of_mem_toOption hdone⟩ hskipped rfl fun t ht => ?_).mpr ⟨hlasts, hstands⟩
  rw [hbaseline] at ht
  obtain rfl := Option.some.inj ht
  exact ⟨Instant.ordinary_ofSeconds 0, by decide⟩

/-! ## Values without a stamp -/

/-- An object with a password that was put there by hand, to be replaced every twelve hours. -/
def unstamped : ManagedObject :=
  ⟨⟨"default", "db"⟩, none,
    ((∅ : Annotations).insert Annotations.autogenerate "password").insert Annotations.rotate "12h",
    (∅ : Entries).insert "password" (.ofText "existing")⟩

theorem decide_unstamped (s : Instant) : ungated.decide unstamped "password" s = .skip (some (.ofSeconds 43200)) := by
  have hvalue : unstamped.hasValue "password" = true := by decide +kernel
  have hinterval : (ungated.spec unstamped "password").interval = some (.ofSeconds 43200) := by decide +kernel
  have hbaseline : unstamped.baseline? "password" = none := by decide +kernel
  rw [decide_eq_of_interval hvalue hinterval (by decide), hbaseline]

/-- Every cycle skips the password and asks for another one in twelve hours. -/
theorem exists_ends_unstamped (s : Instant) (e : Entropy) :
    ∃ v, ungated.Ends unstamped s e (.ok (v, e)) ∧ v.object = none ∧ v.requeueAfter = some (.ofSeconds 43200) ∧
      v.outcomes = [⟨"password", .skip (some (.ofSeconds 43200)), none⟩] := by
  have hfields : unstamped.fields = ["password"] := by decide +kernel
  have hmaterial : (ungated.decide unstamped "password" s).producesMaterial = false := by rw [decide_unstamped]; rfl
  have hbreaks : FieldSpec.intervalBreaks unstamped.annotations "password" = false := by decide +kernel
  have hreports : ungated.reports unstamped s ["password"] e =
      .ok ([⟨ungated.spec unstamped "password", .skip (some (.ofSeconds 43200)), .untouched⟩], e) := by
    simp only [reports, report_of_not_producesMaterial e hmaterial, decide_unstamped, FieldReport.fatal?]
  refine ⟨_, ⟨?_, by rw [evaluate, hfields, hreports]⟩, rfl, rfl, rfl⟩
  have hstands : ungated.breaksDownAt unstamped s "password" = false :=
    breaksDownAt_eq_false_iff.mpr ⟨hbreaks, strandedAt_of_disabled rfl, fun hmade => by simp [hmaterial] at hmade⟩
  rw [hfields, breaksDown, hstands]
  simp [breaksDown]

/-- Not all promises are kept: a value without a stamp is skipped again at the promised time. -/
theorem exists_promise_broken :
    ¬ ∀ (g : Engine) (o : ManagedObject) (now : Instant) (e rest : Entropy) (v : Evaluation) (f : FieldOutcome)
      (d : Duration), g.config.gate.enabled = false → now.Stampable →
      (∀ field ∈ o.fields, ∀ t, o.baseline? field = some t → t.Ordinary ∧ t ≤ now) → g.Ends o now e (.ok (v, rest)) →
      f ∈ v.outcomes → f.decision = .skip (some d) → g.RotatesAt (v.object.getD o) (now.advance d) f.field := by
  intro hall
  obtain ⟨v, hends, hobject, -, houtcomes⟩ := exists_ends_unstamped (.ofSeconds 0) ⟨fun _ => 0, 0⟩
  have hrotates := hall ungated unstamped (.ofSeconds 0) _ _ v ⟨"password", .skip (some (.ofSeconds 43200)), none⟩ _ rfl
    ⟨Instant.ordinary_ofSeconds 0, by decide +kernel⟩ (by decide +kernel) hends (by simp [houtcomes]) rfl
  rw [hobject, Option.getD_none] at hrotates
  obtain ⟨v', rest', hends', ⟨f, hf, hfield⟩, hrotate⟩ := hrotates ⟨fun _ => 0, 0⟩
  have hdecision := (outcomes_of_evaluate hends'.2).2 f hf
  rw [hrotate f hf hfield, hfield, decide_unstamped] at hdecision
  cases hdecision

/-- A value without a stamp is skipped for ever by cycles at the times that they ask for, if nothing else is written. -/
theorem exists_skipped_for_ever :
    ∃ times : Nat → Instant, ∀ n, ungated.WakesTo unstamped (times n) unstamped (times (n + 1)) ∧
      ungated.decide unstamped "password" (times n) = .skip (some (.ofSeconds 43200)) := by
  refine ⟨fun n => Nat.rec (.ofSeconds 0) (fun _ t => t.advance (.ofSeconds 43200)) n, fun n => ⟨?_, decide_unstamped _⟩⟩
  obtain ⟨v, hends, hobject, hrequeue, -⟩ := exists_ends_unstamped
    (Nat.rec (.ofSeconds 0) (fun _ t => t.advance (.ofSeconds 43200)) n) ⟨fun _ => 0, 0⟩
  exact ⟨_, v, _, _, hends, hrequeue, by rw [hobject, Option.getD_none], rfl⟩

end Engine

end SecretRotation
