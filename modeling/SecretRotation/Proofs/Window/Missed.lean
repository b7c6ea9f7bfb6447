import SecretRotation.Proofs.Window.Steady

/-!
# Openings that a wait misses

The wait at a shut gate aims at the next start on the local clocks. Where a clock is moved in the meantime a window may
be open earlier: a clock that is set back can come back into a window that was over for the day, and a clock that leaps
over the start of a window is within it at once, while the search goes by a start moved an hour. No other openings are
missed.

## Main definitions

* `Window.Reenters`: the clock is back in a window that was over before.
* `Window.ShowsStart`, `Window.LeapsIn`: the clock shows the start of a date, or gets past the next start without.

## Main results

* `Gate.shut_while_waiting_iff`: a gate stays shut while it is waited for exactly if in the meantime no clock comes back
  into a window that was over, and none leaps into one.
* `Gate.shut_while_waiting_of_constantOn`: it does so if no offset changes in the meantime.
* `Gate.exists_open_while_waiting`: not all gates stay shut while they are waited for.
-/

namespace SecretRotation

namespace Window

variable {w : Window} {t s : Instant} {date : Int}

/-- At `s` the clock is back in the window of a date that was over at `t`. -/
def Reenters (w : Window) (t s : Instant) : Prop :=
  ∃ date, w.HeldOn date ∧ w.stopOn date ≤ w.clockAt t ∧ w.startOn date ≤ w.clockAt s ∧ w.clockAt s < w.stopOn date

/-- The clock shows the start of a date of the calendar, some time from `t` through `s`. -/
def ShowsStart (w : Window) (date : Int) (t s : Instant) : Prop :=
  Date.InReach date ∧ ∃ r ∈ w.instantsAt (w.startOn date), t.seconds ≤ r ∧ r ≤ s.seconds

/-- At `s` the window is open, and its clock has got past the start that was the next one at `t` without showing it. -/
def LeapsIn (w : Window) (t s : Instant) : Prop :=
  w.Contains s ∧
    ∃ date, w.StartsNextOn (w.clockAt t) date ∧ w.startOn date ≤ w.clockAt s ∧ ¬ w.ShowsStart date t s

theorem Reenters.contains (h : w.Reenters t s) : w.Contains s := by
  obtain ⟨date, hheld, -, hstart, hstop⟩ := h
  exact containsClock_iff.mpr ⟨date, hheld, hstart, hstop⟩

/-- A window that is entered, and not for a second time on that date, is entered by its start. -/
theorem StartsNextOn.startOn_le (h : w.StartsNextOn (w.clockAt t) date) (hc : ¬ w.Contains t) (hs : w.Contains s)
    (hback : ¬ w.Reenters t s) : w.startOn date ≤ w.clockAt s := by
  obtain ⟨d, hheld, hstart, hstop⟩ := containsClock_iff.mp hs
  -- At `t` the window of that date was not over, and the clock was not within it: it was still ahead.
  have hover : ¬ w.stopOn d ≤ w.clockAt t := fun hle => hback ⟨d, hheld, hle, hstart, hstop⟩
  have hahead : w.clockAt t < w.startOn d := by
    refine Int.not_le.mp fun hle => ?_
    exact hc (containsClock_iff.mpr ⟨d, hheld, hle, by omega⟩)
  have hfirst := w.startOn_le_startOn (h.least d hheld hahead)
  omega

/-- A window that is open, and was neither come back into nor leapt into, was announced to open by then. -/
theorem exists_nextOpening?_le (hc : ¬ w.Contains t) (hs : w.Contains s) (hback : ¬ w.Reenters t s)
    (hleap : ¬ w.LeapsIn t s) : ∃ x, w.nextOpening? t = some x ∧ x ≤ s.seconds := by
  obtain ⟨date, hnext⟩ := w.exists_startsNextOn (w.clockAt t)
  have hshown : w.ShowsStart date t s :=
    Classical.byContradiction fun hnot => hleap ⟨hs, date, hnext, hnext.startOn_le hc hs hback, hnot⟩
  obtain ⟨hreach, r, hr, htr, hrs⟩ := hshown
  obtain ⟨x, -, hx, hle⟩ := nextOpening?_le hc hnext hreach hr htr
  exact ⟨x, hx, Int.le_trans hle hrs⟩

theorem not_reenters_of_constantOn (h : w.zone.ConstantOn t.seconds s.seconds) (hts : t.seconds ≤ s.seconds) :
    ¬ w.Reenters t s := by
  rintro ⟨date, -, hover, -, hstop⟩
  have hs := h s.seconds hts (Int.le_refl _)
  simp only [clockAt, Zone.localAt] at hover hstop
  omega

theorem not_leapsIn_of_constantOn (h : w.zone.ConstantOn t.seconds s.seconds) (hts : t.seconds ≤ s.seconds)
    (hdays : Date.InReach t.day ∧ Date.InReach s.day)
    (hdates : Date.InReach (dateOf (w.clockAt t)) ∧ Date.InReach (dateOf (w.clockAt s))) : ¬ w.LeapsIn t s := by
  rintro ⟨-, date, hnext, hpast, hnot⟩
  have hahead := hnext.ahead
  obtain ⟨offset, hoffset⟩ : ∃ offset, w.zone.offsetAt t.seconds = offset := ⟨_, rfl⟩
  have hlocal : ∀ r, t.seconds ≤ r → r ≤ s.seconds → w.zone.localAt r = r + offset := fun r htr hrs => by
    rw [Zone.localAt, h r htr hrs, hoffset]
  have ht : w.clockAt t = t.seconds + offset := hlocal _ (Int.le_refl _) hts
  have hs : w.clockAt s = s.seconds + offset := hlocal _ hts (Int.le_refl _)
  obtain ⟨r, hr⟩ : ∃ r, r + offset = w.startOn date := ⟨w.startOn date - offset, by omega⟩
  have hshown : w.zone.localAt r = w.startOn date := by rw [hlocal r (by omega) (by omega), hr]
  have hday : Date.InReach (Instant.ofSeconds r).day := by
    simp only [Date.InReach, Instant.day, Instant.ofSeconds, Instant.perDay] at *
    omega
  have hdate : Date.InReach date := by
    have := w.startOn_bounds date
    simp only [Date.InReach, dateOf, Instant.perDay] at *
    omega
  exact hnot ⟨hdate, r, mem_instantsAt.mpr ⟨hshown, hday⟩, by omega, by omega⟩

end Window

namespace Gate

variable {g : Gate} {t s : Instant}

theorem not_open_of_lt_wait (hc : ¬ g.Open t) (hts : t ≤ s) (hs : s < t.advance (g.wait t))
    (h : ∀ w ∈ g.windows, ¬ w.Reenters t s ∧ ¬ w.LeapsIn t s) : ¬ g.Open s := by
  obtain ⟨henabled, hshut⟩ := not_open_iff.mp hc
  refine not_open_iff.mpr ⟨henabled, fun w hw hcontains => ?_⟩
  obtain ⟨hback, hleap⟩ := h w hw
  obtain ⟨x, hx, hle⟩ := Window.exists_nextOpening?_le (hshut w hw) hcontains hback hleap
  obtain ⟨σ, hσ, hσx⟩ := exists_nextOpening? henabled hw hx
  rw [wait_eq hc hσ] at hs
  have := Instant.seconds_lt_of_lt_advance_elapsed hts hs
  omega

/-- **Missed openings.** A gate stays shut while it is waited for exactly if in the meantime no clock comes back into a
window that was over, and none leaps into one. -/
theorem shut_while_waiting_iff (hc : ¬ g.Open t) :
    (∀ s, t ≤ s → s < t.advance (g.wait t) → ¬ g.Open s) ↔
      ∀ s, t ≤ s → s < t.advance (g.wait t) → ∀ w ∈ g.windows, ¬ w.Reenters t s ∧ ¬ w.LeapsIn t s := by
  constructor
  · intro hshut s hts hs w hw
    -- Either way the window is open then.
    have hnot : ¬ w.Contains s := (not_open_iff.mp (hshut s hts hs)).2 w hw
    exact ⟨fun hback => hnot hback.contains, fun hleap => hnot hleap.1⟩
  · intro h s hts hs
    exact not_open_of_lt_wait hc hts hs (h s hts hs)

/-- Half past two to a quarter to three on Thursdays, on clocks that are set back at one o'clock universal time from three
to two. -/
def repeatedHalfHour : Window where
  name := none
  days := [.thursday]
  start := 150
  stop := 165
  zone := ⟨"Repeated", 7200, [⟨3600, 3600⟩], trivial⟩
  days_ne_nil := by decide
  nodup_days := by decide
  start_lt_stop := by decide
  stop_lt := by decide

/-- Ten to three, before the clocks are set back: the wait for next week misses the second half past two. -/
theorem not_shut_while_waiting_repeated :
    ¬ (Gate.mk true [repeatedHalfHour] (by simp)).Open (.ofSeconds 3000) ∧
      ¬ ∀ s, Instant.ofSeconds 3000 ≤ s →
        s < (Instant.ofSeconds 3000).advance ((Gate.mk true [repeatedHalfHour] (by simp)).wait (.ofSeconds 3000)) →
          ¬ (Gate.mk true [repeatedHalfHour] (by simp)).Open s := by
  have hshut : ¬ (Gate.mk true [repeatedHalfHour] (by simp)).Open (.ofSeconds 3000) := by decide
  refine ⟨hshut, fun h => ?_⟩
  have hexact := (shut_while_waiting_iff hshut).mp h (.ofSeconds 5400) (by decide) (by decide) repeatedHalfHour
    (by simp)
  exact hexact.1 ⟨0, by decide⟩

/-- If no offset changes on the way, and the calendar does not end, a gate stays shut while it is waited for. -/
theorem shut_while_waiting_of_constantOn (hc : ¬ g.Open t) (hts : t ≤ s) (hs : s < t.advance (g.wait t))
    (hdays : Date.InReach t.day ∧ Date.InReach s.day)
    (h : ∀ w ∈ g.windows, w.zone.ConstantOn t.seconds s.seconds ∧
      Date.InReach (Window.dateOf (w.clockAt t)) ∧ Date.InReach (Window.dateOf (w.clockAt s))) : ¬ g.Open s := by
  refine not_open_of_lt_wait hc hts hs fun w hw => ?_
  obtain ⟨hconstant, hdates⟩ := h w hw
  have hseconds := Instant.seconds_le_of_le hts
  exact ⟨Window.not_reenters_of_constantOn hconstant hseconds,
    Window.not_leapsIn_of_constantOn hconstant hseconds hdays hdates⟩

/-- Sundays from half past two to a quarter to three in Berlin. -/
def berlinHalfHour : WindowText := ⟨none, ["sunday"], "02:30", "02:45", "Europe/Berlin"⟩

/-- In Berlin the last Sunday of October 2026 has half past two twice. Ten to three on the first pass, which is ten to one
universal time, the next opening found is that of the Sunday after. -/
theorem berlinHalfHour_misses :
    ∃ w ∈ berlinHalfHour.build.toOption, ¬ w.Contains (.ofSeconds 1792889400) ∧ w.Contains (.ofSeconds 1792891800) ∧
      w.nextOpening? (.ofSeconds 1792889400) = some 1793496600 := by
  decide +kernel

/-- Not all gates of accepted windows stay shut while they are waited for. -/
theorem exists_open_while_waiting :
    ¬ ∀ (g : Gate) (t : Instant), g.enabled = true → (∀ w ∈ g.windows, w.Accepted) → ¬ g.Open t →
      ∀ s, t ≤ s → s < t.advance (g.wait t) → ¬ g.Open s := by
  intro hall
  obtain ⟨w, hw, hshut, hcontains, hnext⟩ := berlinHalfHour_misses
  have haccepted : w.Accepted := ⟨berlinHalfHour, eq_ok_of_mem_toOption hw⟩
  obtain ⟨g, henabled, hwindows⟩ : ∃ g : Gate, g.enabled = true ∧ g.windows = [w] := ⟨⟨true, [w], by simp⟩, rfl, rfl⟩
  have hclosed : ¬ g.Open (.ofSeconds 1792889400) := not_open_iff.mpr ⟨henabled, by simpa [hwindows] using hshut⟩
  have hopening : g.nextOpening? (.ofSeconds 1792889400) = some 1793496600 :=
    (nextOpening?_eq_some_iff henabled).mpr (by simp [hwindows, hnext])
  refine hall g (.ofSeconds 1792889400) henabled (by simpa [hwindows] using haccepted) hclosed (.ofSeconds 1792891800)
    (by decide) ?_ fun _ => ⟨w, by simp [hwindows], hcontains⟩
  rw [wait_eq hclosed hopening]
  decide

end Gate

end SecretRotation
