import SecretRotation.Proofs.Window.Start
import SecretRotation.Proofs.Zone.Bounds
import SecretRotation.Window.Gate

/-!
# Searches within the calendar

The search for an opening holds the present local time and, where a start is not shown, that of an hour later. Both exist
unless the calendar is about to end, or has hardly begun: a week and a day from its ends no search breaks down.

## Main results

* `Window.not_startBreaks`: a start before the last day of the calendar can be looked for.
* `Window.not_searchBreaks`: a search breaks down at most in the last eight days of the calendar, or beyond it.
* `Gate.not_searchBreaks`: nor does that of a gate, on any day that is not near the ends of the calendar.
-/

namespace SecretRotation

namespace Window

variable {w : Window} {t : Instant} {date : Int}

/-- An hour after a start is on the same date or on the next one. -/
theorem dateOf_startOn_add_perHour (w : Window) (date : Int) :
    date ≤ dateOf (w.startOn date + perHour) ∧ dateOf (w.startOn date + perHour) ≤ date + 1 := by
  have hstart := w.startOn_bounds date
  simp only [dateOf, perHour, Instant.perDay]
  omega

theorem not_startBreaks (hreach : Date.InReach date) (hlast : date < Date.lastDay) : ¬ w.StartBreaks date := by
  rintro ⟨-, hbeyond⟩
  have hlater := w.dateOf_startOn_add_perHour date
  rw [startOn] at hlater
  simp only [Date.InReach] at *
  omega

theorem not_searchBreaks (hreach : Date.InReach (w.today t)) (hlast : w.today t + 7 < Date.lastDay) :
    ¬ w.SearchBreaks t := by
  rintro (hbeyond | ⟨-, hbreaks⟩ | ⟨-, date, hdate, hbreaks⟩)
  · exact hbeyond hreach
  · exact not_startBreaks hreach (by omega) hbreaks
  · obtain ⟨-, hdateReach, -, hweek⟩ := laterDate?_bounds hdate
    exact not_startBreaks hdateReach (by omega) hbreaks

end Window

namespace Gate

variable {g : Gate} {t : Instant}

/-- No clock is a whole day ahead or behind, so that a day more on either side is enough. -/
theorem not_searchBreaks (hb : ∀ w ∈ g.windows, w.zone.Bounded) (hfirst : Date.firstDay < t.day)
    (hlast : t.day + 8 < Date.lastDay) : ¬ g.SearchBreaks t := by
  rintro ⟨-, w, hw, hbreaks⟩
  have hoffset := hb w hw t.seconds
  have hdate : t.day - 1 ≤ w.today t ∧ w.today t ≤ t.day + 1 := by
    simp only [OffsetChange.WithinDay, Window.today, Window.dateOf, Window.clockAt, Zone.localAt, Instant.day,
      Instant.perDay] at *
    omega
  exact Window.not_searchBreaks ⟨by omega, by omega⟩ (by omega) hbreaks

end Gate

end SecretRotation
