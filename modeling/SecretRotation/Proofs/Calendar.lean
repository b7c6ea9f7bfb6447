import SecretRotation.Calendar

/-!
# The date of a day

Every day of the count has exactly one date: the date found for it exists, and it counts back to the day.

## Main results

* `Date.daysBeforeYear_add_one`: the lengths of years.
* `Date.yearOf_spec`: the year found for a day holds it.
* `Date.toDay_ofDay`, `Date.valid_ofDay`: the date found for a day exists and counts back to it.
* `Date.year_ofDay_le`: later days have later years.
-/

namespace SecretRotation.Date

/-- Leap years have a day more. -/
theorem daysBeforeYear_add_one (year : Int) :
    daysBeforeYear (year + 1) = daysBeforeYear year + daysInMonths (monthLengths (isLeap year)) := by
  have hleap : daysInMonths (monthLengths true) = 366 := by decide
  have hcommon : daysInMonths (monthLengths false) = 365 := by decide
  cases h : isLeap year with
  | true =>
    rw [hleap]
    simp only [isLeap, Bool.and_eq_true, Bool.or_eq_true, beq_iff_eq, bne_iff_ne] at h
    simp only [daysBeforeYear]
    omega
  | false =>
    rw [hcommon]
    simp only [isLeap, Bool.and_eq_false_iff, Bool.or_eq_false_iff, beq_eq_false_iff_ne, bne_eq_false_iff_eq] at h
    simp only [daysBeforeYear]
    omega

/-- The year found for a day holds it. -/
theorem yearOf_spec (n : Int) : daysBeforeYear (yearOf n) ≤ n ∧ n < daysBeforeYear (yearOf n + 1) := by
  -- The mean length of a year leads to a neighbour at most.
  have hguess : daysBeforeYear (400 * n / 146097 - 1) ≤ n ∧ n < daysBeforeYear (400 * n / 146097 + 2) := by
    simp only [daysBeforeYear]
    omega
  simp only [yearOf]
  by_cases hbelow : n < daysBeforeYear (400 * n / 146097)
  · rw [if_pos hbelow, show 400 * n / 146097 - 1 + 1 = 400 * n / 146097 by omega]
    exact ⟨hguess.1, hbelow⟩
  · rw [if_neg hbelow]
    by_cases habove : daysBeforeYear (400 * n / 146097 + 1) ≤ n
    · rw [if_pos habove, show 400 * n / 146097 + 1 + 1 = 400 * n / 146097 + 2 by omega]
      exact ⟨habove, hguess.2⟩
    · rw [if_neg habove]
      exact ⟨by omega, by omega⟩

/-- Days that fit into some months are whole months and days of the next one. -/
theorem splitMonths_spec (lengths : List Nat) :
    ∀ days : Nat, days < daysInMonths lengths →
      (splitMonths lengths days).1 < lengths.length ∧
        daysInMonths (lengths.take (splitMonths lengths days).1) + (splitMonths lengths days).2 = days ∧
        (splitMonths lengths days).2 < lengths.getD (splitMonths lengths days).1 0 := by
  induction lengths with
  | nil => simp [daysInMonths]
  | cons length lengths ih =>
    intro days h
    rw [daysInMonths] at h
    rw [splitMonths]
    by_cases hlast : days < length
    · simp [hlast, daysInMonths]
    · obtain ⟨hmonth, hsum, hrest⟩ := ih (days - length) (by omega)
      rw [if_neg hlast]
      refine ⟨by simpa using hmonth, ?_, by simpa using hrest⟩
      simp only [List.take_succ_cons, daysInMonths]
      omega

/-- What is left of a day after its year falls into one of the months. -/
theorem ofDay_spec (day : Int) :
    ∃ months days : Nat, ofDay day = ⟨yearOf (day + epoch), months + 1, days + 1⟩ ∧ months < 12 ∧
      days < (monthLengths (isLeap (yearOf (day + epoch)))).getD months 0 ∧
      daysBeforeYear (yearOf (day + epoch)) +
        daysInMonths ((monthLengths (isLeap (yearOf (day + epoch)))).take months) + days = day + epoch := by
  obtain ⟨hfirst, hlast⟩ := yearOf_spec (day + epoch)
  rw [daysBeforeYear_add_one] at hlast
  obtain ⟨inYear, hinYear⟩ : ∃ inYear, (day + epoch - daysBeforeYear (yearOf (day + epoch))).toNat = inYear := ⟨_, rfl⟩
  obtain ⟨hmonth, hsum, hrest⟩ := splitMonths_spec (monthLengths (isLeap (yearOf (day + epoch)))) inYear (by omega)
  have heq : ofDay day = ⟨yearOf (day + epoch),
      (splitMonths (monthLengths (isLeap (yearOf (day + epoch)))) inYear).1 + 1,
      (splitMonths (monthLengths (isLeap (yearOf (day + epoch)))) inYear).2 + 1⟩ := by
    rw [← hinYear]
    rfl
  exact ⟨_, _, heq, hmonth, hrest, by omega⟩

theorem toDay_ofDay (day : Int) : (ofDay day).toDay = day := by
  obtain ⟨months, days, heq, -, -, hsum⟩ := ofDay_spec day
  rw [heq]
  simp only [toDay, Nat.add_sub_cancel]
  omega

theorem valid_ofDay (day : Int) : (ofDay day).Valid := by
  obtain ⟨months, days, heq, -, hrest, -⟩ := ofDay_spec day
  rw [heq]
  refine ⟨Nat.succ_le_succ (Nat.zero_le _), ?_⟩
  simpa [monthLength] using Nat.succ_le_of_lt hrest

/-- Months and days have at most two digits. -/
theorem ofDay_bounds (day : Int) : (ofDay day).month ≤ 12 ∧ (ofDay day).day ≤ 31 := by
  obtain ⟨months, days, heq, hmonth, hrest, -⟩ := ofDay_spec day
  rw [heq]
  have hlengths : ∀ leap, ∀ month < 12, (monthLengths leap).getD month 0 ≤ 31 := by decide
  have := hlengths (isLeap (yearOf (day + epoch))) months hmonth
  exact ⟨hmonth, Nat.le_trans (Nat.succ_le_of_lt hrest) this⟩

theorem daysBeforeYear_le {year later : Int} (h : year ≤ later) : daysBeforeYear year ≤ daysBeforeYear later := by
  simp only [daysBeforeYear]
  omega

/-- Later days have later years. -/
theorem year_ofDay_le {day later : Int} (h : day ≤ later) : (ofDay day).year ≤ (ofDay later).year := by
  have hday := (yearOf_spec (day + epoch)).1
  have hlater := (yearOf_spec (later + epoch)).2
  show yearOf (day + epoch) ≤ yearOf (later + epoch)
  refine Int.not_lt.mp fun hyears => ?_
  have hle := daysBeforeYear_le (show yearOf (later + epoch) + 1 ≤ yearOf (day + epoch) by omega)
  omega

end SecretRotation.Date
