import SecretRotation.Proofs.Cycle.Due
import SecretRotation.Proofs.Window.Announced

/-!
# The timeline of a value

A value with an interval comes of age when the interval has passed since it was written. Before that it is left alone for
exactly as long as it takes, and from then on the gate alone counts. A stamp in the future counts as just written, so that
the whole interval is waited for; without any time to wait for, such a value is due at once.

All this rests on differences of instants and spans. Instants lie within the calendar, which is short against the spans
that are counted in milliseconds, and an age is taken from an interval only while it is below it: no difference fails.
Only for a value that is to be put off there may be no decision, at the end of the calendar.

## Main definitions

* `Decision.Timed`: a decision for a value that is left alone while it is young.
* `Decision.Exact`: no difference that a decision rests on fails.

## Main results

* `Instant.elapsed_lt_iff_lt_advance`: what is younger than a span.
* `Instant.natAbs_since_le`: the distances of all instants of the calendar can be counted.
* `Decision.timed_make`: the timeline of a value, and that no difference on it fails.
* `Decision.exists_not_timed`: a value with a stamp in the future and no time to wait for is not left alone.
-/

namespace SecretRotation

/-! ## Ages -/

namespace Instant

variable {now written : Instant} {span : Duration}

/-- A value is younger than a span until the span has passed since it was written, unless there is no time to pass. -/
theorem elapsed_lt_iff_lt_advance (hnow : now.Ordinary) (hwritten : written.Ordinary) :
    now.elapsed written < span ↔ span ≠ .zero ∧ now < written.advance span := by
  -- An age is never below zero, so that nothing is younger than no time at all, not even what is to come.
  have hzero : span ≠ .zero ↔ 0 < span.nanoseconds := by
    rw [Nat.pos_iff_ne_zero, not_iff_not]
    exact ⟨fun h => h ▸ rfl, fun h => congrArg Duration.mk h⟩
  rw [elapsed_lt_iff hnow hwritten, lt_iff_count hnow (ordinary_advance hwritten span), count_advance hwritten, hzero]
  omega

/-- What is left of a span leads to its end. -/
theorem advance_sub_elapsed (hnow : now.Ordinary) (hwritten : written.Ordinary) (hle : written ≤ now)
    (hyoung : now.elapsed written < span) : now.advance (span - now.elapsed written) = written.advance span := by
  have hage := nanoseconds_elapsed hnow hwritten
  rw [le_iff_count hwritten hnow] at hle
  rw [Duration.lt_def] at hyoung
  apply eq_of_count_eq (ordinary_advance hnow _) (ordinary_advance hwritten _)
  rw [count_advance hnow, count_advance hwritten, Duration.nanoseconds_sub]
  omega

/-- Nothing has passed since what is still to come. -/
theorem elapsed_of_lt (hnow : now.Ordinary) (hwritten : written.Ordinary) (h : now < written) :
    now.elapsed written = .zero := by
  rw [lt_iff_count hnow hwritten] at h
  have hdistance : now.since written ≤ 0 := by
    rw [since_eq_count hnow hwritten]
    omega
  rw [elapsed, Int.toNat_of_nonpos hdistance]
  rfl

/-- The calendar is short against the spans that there are, leap seconds or not. -/
theorem natAbs_since_le {a b : Instant} (ha : Date.InReach a.day) (hb : Date.InReach b.day) :
    (a.since b).natAbs ≤ longestStep.nanoseconds := by
  have hupper := leapCorrection_le a b
  have hlower : -1 ≤ leapCorrection a b := by
    rw [leapCorrection]
    split
    · decide
    · split <;> decide
  -- Half a million years of calendar are counted, against three hundred million.
  have hanos := a.nanos_lt
  have hbnos := b.nanos_lt
  simp only [Date.InReach, Date.firstDay, Date.lastDay, day, perDay] at ha hb
  simp only [since, longestStep, Duration.perSecond]
  omega

end Instant

/-- Openings that are found lie within the calendar. -/
theorem Gate.inReach_of_nextOpening? {g : Gate} {t : Instant} {s : Int} (h : g.nextOpening? t = some s) :
    Date.InReach (Instant.ofSeconds s).day := by
  have henabled : g.enabled = true := by
    rw [nextOpening?] at h
    split at h
    · assumption
    · cases h
  obtain ⟨⟨w, -, hw⟩, -⟩ := (nextOpening?_eq_some_iff henabled).mp h
  obtain ⟨date, -, hs⟩ := Window.mem_startsOn_of_nextOpening? hw
  rcases Window.mem_startsOn.mp hs with hshown | ⟨-, hmoved⟩
  · exact (Window.mem_instantsAt.mp hshown).2
  · exact (Window.mem_instantsAt.mp hmoved).2

namespace Decision

variable {state : FieldState} {minimum interval : Duration} {written now : Instant} {gate : Gate}

/-! ## The timeline -/

/-- A decision for a value that is left alone while it is young, and that is up to the gate from then on. What was written
before is left alone until its interval has passed, and what is still to come for the whole interval. -/
structure Timed (d : Decision) (young : Prop) (interval : Duration) (written : Instant) (gate : Gate) (now : Instant) :
    Prop where
  skip_iff : (∃ rest, d = .skip rest) ↔ young
  due : ¬ young → d = if gate.Open now then .rotate else .defer (gate.wait now)
  lands : written ≤ now → ∀ rest, d = .skip rest → ∃ left, rest = some left ∧ now.advance left = written.advance interval
  whole : now < written → ∀ rest, d = .skip rest → rest = some interval

/-- What is skipped by its age is young, and is skipped for what is left of its interval. -/
theorem ofAge_eq_skip_rest_iff {rest : Option Duration} :
    ofAge interval written gate now = .skip rest ↔
      now.elapsed written < interval ∧ rest = some (interval - now.elapsed written) := by
  cases rest with
  | some left => simpa using ofAge_eq_skip_iff
  | none =>
    simp only [ofAge]
    split
    · simp
    · split <;> simp

theorem timed_ofAge (hwritten : written.Ordinary) (hnow : now.Ordinary) :
    (ofAge interval written gate now).Timed (interval ≠ .zero ∧ now < written.advance interval) interval written gate now := by
  have hyoung : now.elapsed written < interval ↔ interval ≠ .zero ∧ now < written.advance interval :=
    Instant.elapsed_lt_iff_lt_advance hnow hwritten
  constructor
  case skip_iff =>
    rw [← hyoung]
    exact ⟨fun ⟨_, hskip⟩ => (ofAge_eq_skip_rest_iff.mp hskip).1, fun hage => ⟨_, ofAge_eq_skip_rest_iff.mpr ⟨hage, rfl⟩⟩⟩
  case due =>
    intro hdue
    rw [ofAge, if_neg (mt hyoung.mp hdue)]
  case lands =>
    intro hle rest hskip
    obtain ⟨hage, rfl⟩ := ofAge_eq_skip_rest_iff.mp hskip
    exact ⟨_, rfl, Instant.advance_sub_elapsed hnow hwritten hle hage⟩
  case whole =>
    intro hlt rest hskip
    obtain ⟨-, rfl⟩ := ofAge_eq_skip_rest_iff.mp hskip
    rw [Instant.elapsed_of_lt hnow hwritten hlt]
    rfl

/-- No difference that a decision rests on fails. The age of a value and the wait for an opening are counted in milliseconds
of 64 bits, and have place in them; what is left of an interval is what an age that is not longer leaves of it. -/
structure Exact (d : Decision) (interval : Duration) (written : Instant) (gate : Gate) (now : Instant) : Prop where
  age : (now.since written).natAbs ≤ Instant.longestStep.nanoseconds
  rest : ∀ left, d = .skip (some left) → left.nanoseconds + (now.elapsed written).nanoseconds = interval.nanoseconds
  opening : ∀ s, gate.nextOpening? now = some s → ((Instant.ofSeconds s).since now).natAbs ≤ Instant.longestStep.nanoseconds

theorem exact_ofAge (hwritten : Date.InReach written.day) (hnow : Date.InReach now.day) :
    (ofAge interval written gate now).Exact interval written gate now := by
  refine ⟨Instant.natAbs_since_le hnow hwritten, fun left hskip => ?_, fun s hs => ?_⟩
  · obtain ⟨hyoung, rfl⟩ := ofAge_eq_skip_iff.mp hskip
    rw [Duration.lt_def] at hyoung
    rw [Duration.nanoseconds_sub]
    omega
  · exact Instant.natAbs_since_le (Gate.inReach_of_nextOpening? hs) hnow

/-- For a value with an interval that is not too short and with a time of its last write, only its age counts. -/
theorem make_eq_ofAge (hvalue : state.hasValue = true) (hinterval : state.interval = some interval)
    (hminimum : minimum ≤ interval) (hbaseline : state.baseline = some written) :
    make state minimum gate now = ofAge interval written gate now := by
  have hlong : ¬ interval < minimum := Nat.not_lt.mpr hminimum
  simp [make, hvalue, hinterval, hbaseline, hlong]

/-- **The timeline of a value.** A value that is replaced from time to time is skipped exactly until its interval has passed
since it was written, and only if there is any time to pass; from then on it is up to the gate alone. What is waited for
ends at just that time, and is the whole interval for a stamp in the future. There is a decision while the value is skipped,
while the gate is open, and wherever the search for its next opening does not break down. None of the differences fails,
whatever the interval and wherever the two instants lie in the calendar. -/
theorem timed_make (state : FieldState) (minimum : Duration) (gate : Gate) (now : Instant) (hvalue : state.hasValue = true)
    (hinterval : state.interval = some interval) (hminimum : minimum ≤ interval) (hbaseline : state.baseline = some written) :
    (written.Ordinary → now.Ordinary →
      (∀ d, tryMake state minimum gate now = some d →
        d.Timed (interval ≠ .zero ∧ now < written.advance interval) interval written gate now) ∧
      ((interval ≠ .zero ∧ now < written.advance interval) ∨ gate.Open now ∨ ¬ gate.SearchBreaks now →
        ∃ d, tryMake state minimum gate now = some d)) ∧
    (Date.InReach written.day → Date.InReach now.day → (make state minimum gate now).Exact interval written gate now) := by
  have hmake : make state minimum gate now = ofAge interval written gate now :=
    make_eq_ofAge hvalue hinterval hminimum hbaseline
  refine ⟨fun hwritten hnow => ⟨fun d hd => ?_, fun hends => ?_⟩, fun hwritten hnow => ?_⟩
  · rw [← (tryMake_eq_some_iff.mp hd).1, hmake]
    exact timed_ofAge hwritten hnow
  · refine Option.ne_none_iff_exists'.mp fun hnone => ?_
    obtain ⟨⟨wait, hdefer⟩, hbreaks⟩ := tryMake_eq_none_iff.mp hnone
    rcases hends with hyoung | hopen | hsearch
    · obtain ⟨rest, hskip⟩ := (timed_ofAge hwritten hnow).skip_iff.mpr hyoung
      rw [hmake, hskip] at hdefer
      cases hdefer
    · exact (eq_wait_of_make_eq_defer hdefer).1 hopen
    · exact hsearch hbreaks
  · rw [hmake]
    exact exact_ofAge hwritten hnow

/-- In Abidjan a value of the start of 1970, which is to be replaced each hour, is skipped for what is left of the hour just
before one o'clock, and put off at one, since the gate is shut on Thursdays. For the longest of intervals no difference fails
between the first second of the calendar and the leap second at its end. -/
theorem timed_make_abidjan :
    (∃ left, tryMake ⟨true, some (.ofSeconds 3600), some (.ofSeconds 0)⟩ (.ofSeconds 300)
        ⟨true, [Gate.abidjanSunday], by simp⟩ ⟨3599, 999999999, by decide⟩ = some (.skip (some left)) ∧
      (Instant.mk 3599 999999999 (by decide)).advance left = (Instant.ofSeconds 0).advance (.ofSeconds 3600)) ∧
    (∃ wait, tryMake ⟨true, some (.ofSeconds 3600), some (.ofSeconds 0)⟩ (.ofSeconds 300)
        ⟨true, [Gate.abidjanSunday], by simp⟩ (.ofSeconds 3600) = some (.defer wait)) ∧
    (make ⟨true, some (.ofSeconds 18446744073709551615), some (.ofSeconds (Date.firstDay * 86400))⟩ .zero .disabled
        ⟨Date.lastDay * 86400 + 86399, 1999999999, by decide⟩).Exact (.ofSeconds 18446744073709551615)
      (.ofSeconds (Date.firstDay * 86400)) .disabled ⟨Date.lastDay * 86400 + 86399, 1999999999, by decide⟩ := by
  have hshut : ¬ (Gate.mk true [Gate.abidjanSunday] (by simp)).Open (.ofSeconds 3600) := by decide
  have hsearch : ¬ (Gate.mk true [Gate.abidjanSunday] (by simp)).SearchBreaks (.ofSeconds 3600) := by decide +kernel
  have htimed := fun now => timed_make ⟨true, some (.ofSeconds 3600), some (.ofSeconds 0)⟩ (.ofSeconds 300)
    ⟨true, [Gate.abidjanSunday], by simp⟩ now rfl rfl (by decide) rfl
  have hfits := timed_make ⟨true, some (.ofSeconds 18446744073709551615), some (.ofSeconds (Date.firstDay * 86400))⟩ .zero
    .disabled ⟨Date.lastDay * 86400 + 86399, 1999999999, by decide⟩ rfl rfl (Nat.zero_le _) rfl
  refine ⟨?_, ?_, hfits.2 (by decide) (by decide)⟩
  · obtain ⟨htimed, hends⟩ := (htimed ⟨3599, 999999999, by decide⟩).1 (Instant.ordinary_ofSeconds 0) (by decide)
    obtain ⟨d, hd⟩ := hends (.inl (by decide))
    obtain ⟨rest, rfl⟩ := (htimed d hd).skip_iff.mpr (by decide)
    obtain ⟨left, rfl, hlands⟩ := (htimed _ hd).lands (by decide) rest rfl
    exact ⟨left, hd, hlands⟩
  · obtain ⟨htimed, hends⟩ := (htimed (.ofSeconds 3600)).1 (Instant.ordinary_ofSeconds 0) (Instant.ordinary_ofSeconds 3600)
    obtain ⟨d, hd⟩ := hends (.inr (.inr hsearch))
    obtain rfl := ((htimed d hd).due (by decide)).trans (if_neg hshut)
    exact ⟨_, hd⟩

/-- Not all values are skipped until their interval has passed. One with a stamp in the future and no time to wait for counts
as just written, and is due at once. -/
theorem exists_not_timed :
    ¬ ∀ (state : FieldState) (minimum interval : Duration) (written now : Instant) (gate : Gate) (d : Decision),
      state.hasValue = true → state.interval = some interval → minimum ≤ interval → state.baseline = some written →
      written.Ordinary → now.Ordinary → tryMake state minimum gate now = some d →
      d.Timed (now < written.advance interval) interval written gate now := by
  intro hall
  have hrotate : tryMake ⟨true, some .zero, some (.ofSeconds 43200)⟩ .zero .disabled (.ofSeconds 0) = some .rotate := by
    decide
  have htimed := hall ⟨true, some .zero, some (.ofSeconds 43200)⟩ .zero .zero (.ofSeconds 43200) (.ofSeconds 0) .disabled _
    rfl rfl (Nat.le_refl _) rfl (Instant.ordinary_ofSeconds _) (Instant.ordinary_ofSeconds _) hrotate
  obtain ⟨rest, hskip⟩ := htimed.skip_iff.mpr (by decide)
  cases hskip

end Decision

end SecretRotation
