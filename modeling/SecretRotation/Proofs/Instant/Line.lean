import SecretRotation.Instant.Basic

/-!
# Instants on one line

Outside leap seconds an instant is a count of nanoseconds, so that order, distance and addition are those of whole
numbers. A leap second has no place on that line; what holds of it is stated apart.

## Main definitions

* `Instant.count`: the nanoseconds from the start of 1970 to an instant.
* `Instant.arrival`: the second in which a wait for a later one ends.

## Main results

* `Instant.lt_iff_count`, `Instant.since_eq_count`, `Instant.count_advance`: order, distance and addition on the line.
* `Instant.seconds_lt_of_lt_advance_elapsed`: waiting for an instant never leads beyond it, not even from a leap second.
* `Instant.seconds_advance_elapsed`, `Instant.zero_lt_elapsed_iff`: where a wait ends, and when it takes any time.
-/

namespace SecretRotation.Instant

/-! ## Order -/

theorem le_refl (t : Instant) : t ≤ t := Or.inr ⟨rfl, Nat.le_refl _⟩

theorem le_trans {a b c : Instant} (h : a ≤ b) (h' : b ≤ c) : a ≤ c := by
  rw [le_def] at *
  omega

theorem le_of_lt {a b : Instant} (h : a < b) : a ≤ b := by
  rw [lt_def] at h
  rw [le_def]
  omega

theorem not_lt {a b : Instant} : ¬ a < b ↔ b ≤ a := by
  rw [lt_def, le_def]
  omega

theorem lt_of_lt_of_le {a b c : Instant} (h : a < b) (h' : b ≤ c) : a < c := by
  rw [le_def] at h'
  rw [lt_def] at *
  omega

theorem seconds_le_of_le {a b : Instant} (h : a ≤ b) : a.seconds ≤ b.seconds := by
  rw [le_def] at h
  omega

theorem lt_ofSeconds {t : Instant} {s : Int} : t < ofSeconds s ↔ t.seconds < s := by
  simp only [lt_def, ofSeconds]
  omega

theorem ofSeconds_le {t : Instant} {s : Int} : ofSeconds s ≤ t ↔ s ≤ t.seconds := by
  simp only [le_def, ofSeconds]
  omega

/-! ## The line -/

/-- The nanoseconds from the start of 1970 to an instant outside leap seconds. -/
def count (t : Instant) : Int := t.seconds * Duration.perSecond + t.nanos

@[simp] theorem ordinary_ofSeconds (s : Int) : (ofSeconds s).Ordinary := by
  show 0 < Duration.perSecond
  decide

@[simp] theorem count_ofSeconds (s : Int) : (ofSeconds s).count = s * Duration.perSecond := by
  simp [count, ofSeconds]

theorem lt_iff_count {a b : Instant} (ha : a.Ordinary) (hb : b.Ordinary) : a < b ↔ a.count < b.count := by
  simp only [Ordinary, lt_def, count, Duration.perSecond] at *
  omega

theorem le_iff_count {a b : Instant} (ha : a.Ordinary) (hb : b.Ordinary) : a ≤ b ↔ a.count ≤ b.count := by
  simp only [Ordinary, le_def, count, Duration.perSecond] at *
  omega

/-- Instants outside leap seconds are their counts. -/
theorem eq_of_count_eq {a b : Instant} (ha : a.Ordinary) (hb : b.Ordinary) (h : a.count = b.count) : a = b := by
  obtain ⟨seconds, nanos, _⟩ := a
  obtain ⟨seconds', nanos', _⟩ := b
  simp only [Ordinary, count, Duration.perSecond] at *
  obtain rfl : seconds = seconds' := by omega
  obtain rfl : nanos = nanos' := by omega
  rfl

theorem since_eq_count {a b : Instant} (ha : a.Ordinary) (hb : b.Ordinary) : a.since b = a.count - b.count :=
  since_eq_of_ordinary ha hb

/-- The time passed is the distance on the line, and none for instants to come. -/
theorem nanoseconds_elapsed {a b : Instant} (ha : a.Ordinary) (hb : b.Ordinary) :
    ((a.elapsed b).nanoseconds : Int) = max 0 (a.count - b.count) := by
  simp only [elapsed, since_eq_count ha hb]
  omega

theorem not_inLeapSecond {t : Instant} (h : t.Ordinary) : t.inLeapSecond = false := by
  simpa [inLeapSecond, Ordinary] using h

theorem ordinary_advance {t : Instant} (h : t.Ordinary) (d : Duration) : (t.advance d).Ordinary := by
  rw [advance, dif_neg (by simp [not_inLeapSecond h])]
  exact Nat.mod_lt _ (by decide)

theorem count_advance {t : Instant} (h : t.Ordinary) (d : Duration) : (t.advance d).count = t.count + d.nanoseconds := by
  rw [advance, dif_neg (by simp [not_inLeapSecond h])]
  simp only [count, Ordinary, Duration.seconds, Duration.subsecond, Duration.perSecond] at *
  omega

theorem advance_le_advance {t : Instant} (h : t.Ordinary) {d d' : Duration} (hle : d ≤ d') : t.advance d ≤ t.advance d' := by
  rw [Duration.le_def] at hle
  rw [le_iff_count (ordinary_advance h d) (ordinary_advance h d'), count_advance h, count_advance h]
  omega

/-- An instant is reached by going forward for as long as it is away. -/
theorem advance_elapsed {a b : Instant} (ha : a.Ordinary) (hb : b.Ordinary) (h : b ≤ a) :
    b.advance (a.elapsed b) = a := by
  apply eq_of_count_eq (ordinary_advance hb _) ha
  rw [le_iff_count hb ha] at h
  rw [count_advance hb, nanoseconds_elapsed ha hb]
  omega

/-! ## Leap seconds -/

theorem leapCorrection_le (a b : Instant) : leapCorrection a b ≤ 1 := by
  rw [leapCorrection]
  split
  · exact Int.le_refl _
  · split <;> omega

/-- Who waits for the start of a second is there no later than that, whatever the clock reads: from a leap second on the
wait may come out one second short. -/
theorem advance_elapsed_le {t : Instant} {s : Int} (h : t.seconds < s) :
    t.advance ((ofSeconds s).elapsed t) ≤ ofSeconds s := by
  by_cases ht : t.Ordinary
  · rw [advance_elapsed (ordinary_ofSeconds s) ht (le_of_lt (lt_ofSeconds.mpr h))]
    exact le_refl _
  · -- The distance counts one second more at most, and the clock is more than a second into the present one.
    have hc := leapCorrection_le (ofSeconds s) t
    have hn := t.nanos_lt
    have he : ((ofSeconds s).elapsed t).nanoseconds ≤ ((s - t.seconds + 1) * Duration.perSecond - t.nanos).toNat := by
      simp only [elapsed, since, ofSeconds, Duration.perSecond] at *
      omega
    rw [advance]
    split
    · simp only [le_def, ofSeconds]
      exact Or.inl h
    · simp only [Ordinary, le_def, ofSeconds, Duration.seconds, Duration.subsecond, Duration.perSecond] at *
      omega

theorem elapsed_of_le {t : Instant} {s : Int} (h : s ≤ t.seconds) : (ofSeconds s).elapsed t = .zero := by
  have hs : (ofSeconds s).since t ≤ 0 := by
    by_cases ht : t.Ordinary
    · rw [since_eq_count (ordinary_ofSeconds s) ht]
      simp only [count, ofSeconds, Duration.perSecond]
      omega
    · have hc := leapCorrection_le (ofSeconds s) t
      simp only [since, Ordinary, ofSeconds, Duration.perSecond] at *
      omega
  simp only [elapsed, Int.toNat_of_nonpos hs, Duration.zero]

theorem advance_zero (t : Instant) : t.advance .zero = t := by
  have hn := t.nanos_lt
  have hz : Duration.seconds .zero = 0 := rfl
  have hz' : Duration.subsecond .zero = 0 := rfl
  rw [advance]
  split
  · simp [hz']
  · rename_i h
    have ht : t.nanos < Duration.perSecond := by
      refine Nat.lt_of_not_le fun hle => h ⟨?_, rfl, ?_⟩
      · simpa [inLeapSecond] using hle
      · simpa [hz', Duration.perSecond] using hn
    simp [hz, hz', Nat.mod_eq_of_lt ht, Nat.div_eq_of_lt ht]

/-- An instant before the end of such a wait is before the second waited for. -/
theorem seconds_lt_of_lt_advance_elapsed {t r : Instant} {s : Int} (hr : t ≤ r)
    (h : r < t.advance ((ofSeconds s).elapsed t)) : r.seconds < s := by
  by_cases hs : t.seconds < s
  · have h' := advance_elapsed_le hs
    simp only [lt_def, le_def, ofSeconds] at *
    omega
  · rw [elapsed_of_le (by omega), advance_zero] at h
    exact absurd h (not_lt.mpr hr)

/-- The second in which a wait for a later second ends. A leap second is not counted where the clock starts over at
midnight in between, so that from it such a wait comes out a second short. -/
def arrival (t : Instant) (s : Int) : Int :=
  if t.inLeapSecond = true ∧ (ofSeconds s).secondOfDay ≤ t.secondOfDay then s - 1 else s

theorem arrival_of_ordinary {t : Instant} (h : t.Ordinary) (s : Int) : t.arrival s = s :=
  if_neg fun hshort => by simp [not_inLeapSecond h] at hshort

theorem arrival_le (t : Instant) (s : Int) : t.arrival s ≤ s := by
  rw [arrival]
  split <;> omega

theorem leapCorrection_ofSeconds {t : Instant} (ht : t.inLeapSecond = true) (s : Int) :
    leapCorrection (ofSeconds s) t = t.arrival s - s + 1 := by
  have hs : (ofSeconds s).inLeapSecond = false := not_inLeapSecond (ordinary_ofSeconds s)
  by_cases hday : (ofSeconds s).secondOfDay ≤ t.secondOfDay
  · have harrival : t.arrival s = s - 1 := if_pos ⟨ht, hday⟩
    simp only [leapCorrection, hs, Int.not_lt.mpr hday, decide_false, Bool.and_false, Bool.false_and, Bool.false_eq_true,
      if_false]
    omega
  · have harrival : t.arrival s = s := if_neg fun h => hday h.2
    simp [leapCorrection, ht, Int.not_le.mp hday, harrival]

theorem nanoseconds_elapsed_of_inLeapSecond {t : Instant} (ht : t.inLeapSecond = true) (s : Int) :
    ((ofSeconds s).elapsed t).nanoseconds = ((t.arrival s - t.seconds + 1) * Duration.perSecond - t.nanos).toNat := by
  have hseconds : (ofSeconds s).seconds - t.seconds + (t.arrival s - s + 1) = t.arrival s - t.seconds + 1 := by
    simp only [ofSeconds]
    omega
  have hnanos : ((ofSeconds s).nanos : Int) - t.nanos = -t.nanos := by simp [ofSeconds]
  simp only [elapsed, since, leapCorrection_ofSeconds ht, hseconds, hnanos, ← Int.sub_eq_add_neg]

/-- In a leap second the clock is more than a second into the present one. -/
theorem nanos_of_inLeapSecond {t : Instant} (ht : t.inLeapSecond = true) :
    1000000000 ≤ t.nanos ∧ t.nanos < 2000000000 :=
  ⟨of_decide_eq_true ht, t.nanos_lt⟩

theorem seconds_le_arrival {t : Instant} {s : Int} (h : t.seconds < s) : t.seconds ≤ t.arrival s := by
  rw [arrival]
  split <;> omega

theorem seconds_advance_elapsed {t : Instant} {s : Int} (h : t.seconds < s) :
    (t.advance ((ofSeconds s).elapsed t)).seconds = t.arrival s := by
  cases ht : t.inLeapSecond with
  | false =>
    have hordinary : t.Ordinary := by simpa [inLeapSecond, Ordinary] using ht
    rw [advance_elapsed (ordinary_ofSeconds s) hordinary (le_of_lt (lt_ofSeconds.mpr h)), arrival_of_ordinary hordinary]
    rfl
  | true =>
    have hnanos := nanos_of_inLeapSecond ht
    have hwait := nanoseconds_elapsed_of_inLeapSecond ht s
    have harrival := seconds_le_arrival h
    rw [advance]
    split
    · rename_i hstays
      show t.seconds = t.arrival s
      obtain ⟨-, hwhole, hrest⟩ := hstays
      simp only [Duration.seconds, Duration.subsecond, Duration.perSecond] at hwhole hrest hwait
      omega
    · simp only [Duration.seconds, Duration.subsecond, Duration.perSecond] at *
      omega

/-- A wait for a later second takes no time only from the leap second before midnight, and only until midnight. -/
theorem zero_lt_elapsed_iff {t : Instant} {s : Int} (h : t.seconds < s) :
    .zero < (ofSeconds s).elapsed t ↔ ¬ (t.inLeapSecond = true ∧ s = t.seconds + 1 ∧ s % perDay = 0) := by
  rw [Duration.lt_def, Duration.nanoseconds_zero]
  cases ht : t.inLeapSecond with
  | false =>
    have hordinary : t.Ordinary := by simpa [inLeapSecond, Ordinary] using ht
    have hwait := nanoseconds_elapsed (ordinary_ofSeconds s) hordinary
    have hcount := (lt_iff_count hordinary (ordinary_ofSeconds s)).mp (lt_ofSeconds.mpr h)
    simp only [Bool.false_eq_true, false_and, not_false_eq_true, iff_true]
    omega
  | true =>
    have hnanos := nanos_of_inLeapSecond ht
    have hwait := nanoseconds_elapsed_of_inLeapSecond ht s
    simp only [arrival, ht, secondOfDay, ofSeconds, perDay, Duration.perSecond, true_and] at *
    split at hwait <;> omega

end SecretRotation.Instant
