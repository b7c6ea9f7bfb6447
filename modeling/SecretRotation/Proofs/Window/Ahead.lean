import SecretRotation.Proofs.Calendar
import SecretRotation.Proofs.Window.Steady

/-!
# Openings to come

Where the gate is shut, the search for the next opening is to find one that is still to come, so that the wait is never
empty. It looks at the start of today while that is ahead, and else at the next date on which the window is held, but at
no further date. That date may have no opening, where the clock leaps over its start and over the hour after it as well,
or one that is past, where the clock was set back over midnight after it. In no other case is an opening missing.

## Main definitions

* `Window.OpensOn`: the instants at which a window opens on a date, read off the clock alone.
* `Window.OpensLaterToday`, `Window.OpensAhead`: an opening of today, or of the next date with the window, is to come.

## Main results

* `Window.exists_nextOpening?_later_iff`: when the search of a window finds an opening to come.
* `Gate.names_future_opening_iff`: when a shut gate has openings to come for all windows and a wait that is not empty.
* `Gate.exists_no_future_opening`: not all shut gates do.
-/

namespace SecretRotation

variable {t : Instant}

/-- The year of an instant, in universal time. -/
def Instant.year (t : Instant) : Int := (Date.ofDay t.day).year

/-- Days of four-digit years are far from both ends of the calendar. -/
theorem Instant.day_bounds (h : 1 ≤ t.year ∧ t.year ≤ 9998) : -719528 ≤ t.day ∧ t.day < 3000000 := by
  obtain ⟨months, days, heq, -⟩ := Date.ofDay_spec t.day
  obtain ⟨hfirst, hlast⟩ := Date.yearOf_spec (t.day + Date.epoch)
  rw [year, heq] at h
  simp only [Date.daysBeforeYear, Date.epoch] at *
  omega

namespace Window

variable {w : Window} {date r : Int}

/-! ## Openings on a date -/

/-- The window opens on a date when the clock shows its start or, if the clock never does, an hour later on the clock. -/
def OpensOn (w : Window) (date r : Int) : Prop :=
  w.zone.localAt r = w.startOn date ∨
    (∀ s, w.zone.localAt s ≠ w.startOn date) ∧ w.zone.localAt r = w.startOn date + perHour

/-- On a date in the middle of the calendar nothing is cut off at its ends. -/
theorem mem_instantsAt_of_bounded (hb : w.zone.Bounded) {clock : Int}
    (hfirst : (Date.firstDay + 1) * 86400 ≤ clock) (hlast : clock < Date.lastDay * 86400) :
    r ∈ w.instantsAt clock ↔ w.zone.localAt r = clock := by
  rw [mem_instantsAt, and_iff_left_iff_imp]
  intro hshown
  have hoffset := hb r
  simp only [OffsetChange.WithinDay, Zone.localAt, Date.InReach, Instant.day, Instant.ofSeconds, Instant.perDay] at *
  omega

theorem mem_startsOn_iff_opensOn (hb : w.zone.Bounded) (hfirst : Date.firstDay + 1 ≤ date)
    (hlast : date + 2 ≤ Date.lastDay) : r ∈ w.startsOn date ↔ w.OpensOn date r := by
  have hdate := w.startOn_bounds date
  have hstart : ∀ {s}, s ∈ w.instantsAt (w.startOn date) ↔ w.zone.localAt s = w.startOn date := fun {s} =>
    mem_instantsAt_of_bounded hb (by omega) (by omega)
  have hmoved : r ∈ w.instantsAt (w.startOn date + perHour) ↔ w.zone.localAt r = w.startOn date + perHour :=
    mem_instantsAt_of_bounded hb (by simp only [perHour]; omega) (by simp only [perHour]; omega)
  rw [mem_startsOn, hstart, hmoved, List.eq_nil_iff_forall_not_mem, OpensOn]
  simp only [hstart, ne_eq]

/-! ## Openings to come -/

/-- The start of today is ahead on the clock, and the window opens on it some time from now. -/
def OpensLaterToday (w : Window) (t : Instant) : Prop :=
  w.HeldOn (dateOf (w.clockAt t)) ∧ w.clockAt t < w.startOn (dateOf (w.clockAt t)) ∧
    ∃ r, w.OpensOn (dateOf (w.clockAt t)) r ∧ t.seconds < r

/-- The window opens later today, or it opens on the next date on which it is held and has not done so yet. -/
def OpensAhead (w : Window) (t : Instant) : Prop :=
  w.OpensLaterToday t ∨
    ∃ date, w.HeldNextAfter (dateOf (w.clockAt t)) date ∧ (∃ r, w.OpensOn date r) ∧
      ∀ r, w.OpensOn date r → t.seconds < r

/-- The first of some seconds in order is later than another exactly if there are any and all are. -/
theorem exists_head?_later_iff {l : List Int} (hl : l.Pairwise (· < ·)) {now : Int} :
    (∃ s, l.head? = some s ∧ now < s) ↔ (∃ r, r ∈ l) ∧ ∀ r ∈ l, now < r := by
  constructor
  · rintro ⟨s, hs, hlater⟩
    refine ⟨⟨s, List.mem_of_head? hs⟩, fun r hr => ?_⟩
    obtain ⟨x, -, hx, hle⟩ := head?_le_of_mem hl hr
    obtain rfl : x = s := by simpa [hx] using hs
    omega
  · rintro ⟨⟨r, hr⟩, hlater⟩
    obtain ⟨x, hx, hhead, -⟩ := head?_le_of_mem hl hr
    exact ⟨x, hhead, hlater x hx⟩

/-- In years of four digits all dates that are searched are far from the ends of the calendar. -/
theorem dateOf_clockAt_bounds (hb : w.zone.Bounded) (hyear : 1 ≤ t.year ∧ t.year ≤ 9998) :
    Date.firstDay + 1 ≤ dateOf (w.clockAt t) ∧ dateOf (w.clockAt t) + 9 ≤ Date.lastDay := by
  have hday := Instant.day_bounds hyear
  have hoffset := hb t.seconds
  simp only [OffsetChange.WithinDay, Date.firstDay, Date.lastDay, dateOf, clockAt, Zone.localAt, Instant.day,
    Instant.perDay] at *
  omega

/-- What is found for today is to come. -/
theorem lt_of_openingToday? (hc : ¬ w.Contains t) (h : w.openingToday? t = some r) : t.seconds < r := by
  by_cases htoday : w.HeldOn (dateOf (w.clockAt t)) ∧ w.clockAt t < w.startOn (dateOf (w.clockAt t))
  · rw [openingToday?_eq_find? hc htoday.1 htoday.2] at h
    have hle : t ≤ Instant.ofSeconds r := by simpa using List.find?_some h
    -- It is not the present second, in which the start is still ahead of the clock.
    have hne : t.seconds ≠ r := by
      rintro rfl
      have hpast := startOn_le_of_mem_startsOn (List.mem_of_find?_eq_some h)
      have hahead := htoday.2
      simp only [clockAt] at hpast hahead
      omega
    exact Int.lt_iff_le_and_ne.mpr ⟨Instant.seconds_le_of_le hle, hne⟩
  · rw [openingToday?_eq_none hc htoday] at h
    cases h

theorem exists_openingToday?_iff (hc : ¬ w.Contains t) (hb : w.zone.Bounded) (hyear : 1 ≤ t.year ∧ t.year ≤ 9998) :
    (∃ s, w.openingToday? t = some s) ↔ w.OpensLaterToday t := by
  have hdate := dateOf_clockAt_bounds hb hyear
  have hopens : ∀ {s}, s ∈ w.startsOn (dateOf (w.clockAt t)) ↔ w.OpensOn (dateOf (w.clockAt t)) s := fun {s} =>
    mem_startsOn_iff_opensOn hb hdate.1 (by omega)
  constructor
  · rintro ⟨s, hs⟩
    have hlater := lt_of_openingToday? hc hs
    by_cases htoday : w.HeldOn (dateOf (w.clockAt t)) ∧ w.clockAt t < w.startOn (dateOf (w.clockAt t))
    · rw [openingToday?_eq_find? hc htoday.1 htoday.2] at hs
      exact ⟨htoday.1, htoday.2, s, hopens.mp (List.mem_of_find?_eq_some hs), hlater⟩
    · rw [openingToday?_eq_none hc htoday] at hs
      cases hs
  · rintro ⟨hheld, hahead, r, hr, hlater⟩
    have hle : t ≤ Instant.ofSeconds r := Instant.le_of_lt (Instant.lt_ofSeconds.mpr hlater)
    have hpair := w.pairwise_startsOn (dateOf (w.clockAt t))
    obtain ⟨x, -, hx, -⟩ := find?_le_of_mem (p := fun s => t ≤ Instant.ofSeconds s) hpair (hopens.mpr hr) (by simpa using hle)
    exact ⟨x, by rw [openingToday?_eq_find? hc hheld hahead, hx]⟩

/-- **Openings found.** Outside the window the search finds an opening to come exactly if one of today is ahead, or if
there is one on the next date with the window and it is ahead. -/
theorem exists_nextOpening?_later_iff (hc : ¬ w.Contains t) (hb : w.zone.Bounded)
    (hyear : 1 ≤ t.year ∧ t.year ≤ 9998) :
    (∃ s, w.nextOpening? t = some s ∧ t.seconds < s) ↔ w.OpensAhead t := by
  have htoday := exists_openingToday?_iff hc hb hyear
  rw [OpensAhead, ← htoday]
  cases hfound : w.openingToday? t with
  | some s =>
    have hlater := lt_of_openingToday? hc hfound
    simp [nextOpening?, hfound, hlater]
  | none =>
    obtain ⟨date, hdate⟩ := w.exists_heldNextAfter (dateOf (w.clockAt t))
    have hafter := hdate.after
    have hweek := hdate.le_add_seven
    have hbounds := dateOf_clockAt_bounds hb hyear
    have hopens : ∀ {s}, s ∈ w.startsOn date ↔ w.OpensOn date s := fun {s} =>
      mem_startsOn_iff_opensOn hb (by omega) (by omega)
    have hsearch : w.nextOpening? t = (w.startsOn date).head? := by
      have hreach : Date.InReach date := by
        simp only [Date.InReach]
        omega
      rw [nextOpening?, hfound, Option.none_or, openingLater?_eq_head? hdate hreach]
    rw [hsearch, exists_head?_later_iff (w.pairwise_startsOn date)]
    simp only [hopens, reduceCtorEq, exists_false, false_or]
    constructor
    · exact fun h => ⟨date, hdate, h⟩
    · rintro ⟨other, hother, h⟩
      obtain rfl : other = date :=
        Int.le_antisymm (hother.least _ hdate.held hdate.after) (hdate.least _ hother.held hother.after)
      exact h

end Window

namespace Gate

variable {g : Gate}

/-- The earliest opening of windows that all have one to come is to come. -/
theorem exists_nextOpening?_later (hc : ¬ g.Open t)
    (hw : ∀ w ∈ g.windows, ∃ s, w.nextOpening? t = some s ∧ t.seconds < s) :
    ∃ s, g.nextOpening? t = some s ∧ t.seconds < s := by
  have henabled := (not_open_iff.mp hc).1
  obtain ⟨v, hv⟩ := List.exists_mem_of_ne_nil _ (g.windows_ne_nil henabled)
  obtain ⟨x, hx, -⟩ := hw v hv
  obtain ⟨s, hs, -⟩ := exists_nextOpening? henabled hv hx
  obtain ⟨⟨w, hmem, hfound⟩, -⟩ := (nextOpening?_eq_some_iff henabled).mp hs
  obtain ⟨y, hy, hlater⟩ := hw w hmem
  obtain rfl : y = s := by simpa [hy] using hfound
  exact ⟨y, hs, hlater⟩

/-- **Openings to come.** At a shut gate all windows have an opening to come, the gate has one, and the wait for it takes
some time, exactly if each window opens later today or on the next date on which it is held, none of the openings on that
date being past already, and if it is not the leap second before a midnight at which the gate opens. -/
theorem names_future_opening_iff (hc : ¬ g.Open t) (hw : ∀ w ∈ g.windows, w.Accepted)
    (hyear : 1 ≤ t.year ∧ t.year ≤ 9998) :
    ((∀ w ∈ g.windows, ∃ s, w.nextOpening? t = some s ∧ t < Instant.ofSeconds s) ∧
        (∃ s, g.nextOpening? t = some s ∧ t < Instant.ofSeconds s) ∧ .zero < g.wait t) ↔
      (∀ w ∈ g.windows, w.OpensAhead t) ∧
        ¬ (t.inLeapSecond = true ∧ (t.seconds + 1) % Instant.perDay = 0 ∧ g.nextOpening? t = some (t.seconds + 1)) := by
  have hwindows : (∀ w ∈ g.windows, ∃ s, w.nextOpening? t = some s ∧ t < Instant.ofSeconds s) ↔
      ∀ w ∈ g.windows, w.OpensAhead t := by
    refine forall₂_congr fun w hmem => ?_
    simp only [Instant.lt_ofSeconds]
    exact Window.exists_nextOpening?_later_iff ((not_open_iff.mp hc).2 w hmem) (hw w hmem).bounded hyear
  rw [← hwindows, and_congr_right_iff]
  intro hahead
  simp only [Instant.lt_ofSeconds] at hahead ⊢
  obtain ⟨s, hs, hlater⟩ := exists_nextOpening?_later hc hahead
  rw [wait_eq hc hs, Instant.zero_lt_elapsed_iff hlater, hs]
  constructor
  · rintro ⟨-, hwait⟩ ⟨hleap, hmidnight, hnext⟩
    obtain rfl := Option.some.inj hnext
    exact hwait ⟨hleap, rfl, hmidnight⟩
  · intro hnot
    refine ⟨⟨s, rfl, hlater⟩, ?_⟩
    rintro ⟨hleap, rfl, hmidnight⟩
    exact hnot ⟨hleap, hmidnight, rfl⟩

/-- On Thursday noon the opening in Abidjan on Sunday is to come. -/
theorem names_future_opening_abidjan :
    (∃ s, (Gate.mk true [abidjanSunday] (by simp)).nextOpening? (.ofSeconds 43200) = some s ∧
      Instant.ofSeconds 43200 < Instant.ofSeconds s) ∧
        .zero < (Gate.mk true [abidjanSunday] (by simp)).wait (.ofSeconds 43200) := by
  have haccepted : abidjanSunday.Accepted := ⟨⟨none, ["sunday"], "02:00", "04:00", "Africa/Abidjan"⟩, rfl⟩
  have hnext : abidjanSunday.HeldNextAfter (Window.dateOf (abidjanSunday.clockAt (.ofSeconds 43200))) 3 := by
    refine ⟨by decide, by decide, fun d hheld hafter => ?_⟩
    have hzero : Window.dateOf (abidjanSunday.clockAt (.ofSeconds 43200)) = 0 := by decide
    rw [hzero] at hafter
    refine Int.not_lt.mp fun hbefore => ?_
    obtain rfl | rfl : d = 1 ∨ d = 2 := by omega
    · exact absurd hheld (by decide)
    · exact absurd hheld (by decide)
  have hlater : ∀ r, abidjanSunday.OpensOn 3 r → (Instant.ofSeconds 43200).seconds < r := by
    intro r hr
    have hstart : abidjanSunday.startOn 3 ≤ abidjanSunday.zone.localAt r := by
      rcases hr with hshown | ⟨-, hmoved⟩
      · exact hshown.ge
      · simp only [Window.perHour] at hmoved
        omega
    have hoffset : abidjanSunday.zone.localAt r ≤ r := by
      simp only [Zone.localAt, Zone.offsetAt, abidjanSunday, Zone.offsetAmong_cons]
      split <;> simp [Zone.offsetAmong]
    have hfirst : abidjanSunday.startOn 3 = 266400 := by decide
    simp only [Instant.ofSeconds]
    omega
  have hexact := names_future_opening_iff (g := ⟨true, [abidjanSunday], by simp⟩) (t := .ofSeconds 43200) (by decide)
    (by simpa using haccepted) (by decide)
  refine (hexact.mpr ⟨?_, by decide⟩).2
  simpa using .inr ⟨3, hnext, ⟨266400, .inl (by decide)⟩, hlater⟩

/-- Sundays from a quarter past one to four at the station of Troll. -/
def trollSunday : WindowText := ⟨none, ["sunday"], "01:15", "04:00", "Antarctica/Troll"⟩

/-- At Troll the last Sunday of March 2026 has no quarter past one and no quarter past two: the clock leaps from one to
three. On Saturday noon no opening is found, neither that of Sunday at three nor that of the week after. -/
theorem trollSunday_names_no_opening :
    ∃ w ∈ trollSunday.build.toOption, ¬ w.Contains (.ofSeconds 1774699200) ∧
      w.nextOpening? (.ofSeconds 1774699200) = none := by
  decide +kernel

/-- Not all shut gates of accepted windows have an opening to come. -/
theorem exists_no_future_opening :
    ¬ ∀ (g : Gate) (t : Instant), g.enabled = true → (∀ w ∈ g.windows, w.Accepted) → 1 ≤ t.year ∧ t.year ≤ 9998 →
      ¬ g.Open t → (∀ w ∈ g.windows, ∃ s, w.nextOpening? t = some s ∧ t < Instant.ofSeconds s) ∧
        (∃ s, g.nextOpening? t = some s ∧ t < Instant.ofSeconds s) ∧ .zero < g.wait t := by
  intro hall
  obtain ⟨w, hw, hshut, hnone⟩ := trollSunday_names_no_opening
  have haccepted : w.Accepted := ⟨trollSunday, eq_ok_of_mem_toOption hw⟩
  obtain ⟨g, henabled, hwindows⟩ : ∃ g : Gate, g.enabled = true ∧ g.windows = [w] := ⟨⟨true, [w], by simp⟩, rfl, rfl⟩
  have hclosed : ¬ g.Open (.ofSeconds 1774699200) := not_open_iff.mpr ⟨henabled, by simpa [hwindows] using hshut⟩
  have hopening := (hall g (.ofSeconds 1774699200) henabled (by simpa [hwindows] using haccepted) (by decide) hclosed).1
  obtain ⟨s, hs, -⟩ := hopening w (by simp [hwindows])
  rw [hnone] at hs
  cases hs

end Gate

end SecretRotation
