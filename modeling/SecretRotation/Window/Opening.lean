import SecretRotation.Instant.Basic
import SecretRotation.Window.Basic

/-!
# When windows open

Whether an instant lies in a window is read off the local clock. The next opening is looked for by date: a window opens
on each of its days at the instants at which the local clock shows its start. A start that the clock leaps over opens
an hour later on the clock, and a start that the clock shows twice opens twice. At the end of the calendar there may be
no opening left.

The search breaks down where it has to hold a local time that is beyond the calendar: the present one, or that of an hour
after a start. Dates that are searched and instants that are found are not such times; if the calendar has none of them,
there is no opening. What the search finds where it breaks down is of no account.

## Main definitions

* `Window.Contains`: the instant lies in the window.
* `Window.startsOn`: the instants at which the window opens on a local date.
* `Window.nextOpening?`: the opening at hand, or the next one.
* `Window.SearchBreaks`: the search for it breaks down.
-/

namespace SecretRotation.Window

/-- The seconds of an hour. -/
def perHour : Int := 3600

/-- The local date of a local clock, as a count of days. -/
def dateOf (clock : Int) : Int := clock / Instant.perDay

/-- The seconds since local midnight. -/
def sinceMidnight (clock : Int) : Int := clock % Instant.perDay

/-- The window is held on a local date. -/
def HeldOn (w : Window) (date : Int) : Prop := Weekday.ofDay date ∈ w.days

instance (w : Window) (date : Int) : Decidable (w.HeldOn date) := inferInstanceAs (Decidable (_ ∈ _))

/-- A local clock that reads a time within the window. -/
def ContainsClock (w : Window) (clock : Int) : Prop :=
  w.HeldOn (dateOf clock) ∧ w.start * 60 ≤ sinceMidnight clock ∧ sinceMidnight clock < w.stop * 60

instance (w : Window) (clock : Int) : Decidable (w.ContainsClock clock) := inferInstanceAs (Decidable (_ ∧ _))

/-- The local clock of the window's zone. -/
def clockAt (w : Window) (t : Instant) : Int := w.zone.localAt t.seconds

/-- The instant lies in the window: its start belongs to it, its end does not. -/
def Contains (w : Window) (t : Instant) : Prop := w.ContainsClock (w.clockAt t)

instance (w : Window) (t : Instant) : Decidable (w.Contains t) := inferInstanceAs (Decidable (w.ContainsClock _))

/-- The seconds of universal time at which the local clock shows a time, as far as their days are in the calendar. -/
def instantsAt (w : Window) (clock : Int) : List Int :=
  (w.zone.instantsAt clock).filter fun s => Date.InReach (Instant.ofSeconds s).day

/-- The seconds of universal time at which the window opens on a local date, in order. -/
def startsOn (w : Window) (date : Int) : List Int :=
  let clock := date * Instant.perDay + w.start * 60
  match w.instantsAt clock with
  | [] => w.instantsAt (clock + perHour)
  | starts => starts

/-- The present local date. -/
def today (w : Window) (t : Instant) : Int := dateOf (w.clockAt t)

/-- The window is held on the present date and is not over yet. -/
def EndsToday (w : Window) (t : Instant) : Prop := w.HeldOn (w.today t) ∧ sinceMidnight (w.clockAt t) < w.stop * 60

instance (w : Window) (t : Instant) : Decidable (w.EndsToday t) := inferInstanceAs (Decidable (_ ∧ _))

/-- The opening on the present date: within the window the last start that has passed, before it the first start still
to come. -/
def openingToday? (w : Window) (t : Instant) : Option Int :=
  if w.EndsToday t then
    let starts := w.startsOn (w.today t)
    if w.Contains t then (starts.filter fun s => Instant.ofSeconds s ≤ t).getLast?.or starts.head?
    else starts.find? fun s => t ≤ Instant.ofSeconds s
  else none

/-- The first of the next seven dates of the calendar on which the window is held. -/
def laterDate? (w : Window) (t : Instant) : Option Int :=
  ((List.range' 1 7).find? fun ahead => Date.InReach (w.today t + (ahead : Nat)) ∧ w.HeldOn (w.today t + (ahead : Nat))).map
    fun ahead => w.today t + (ahead : Nat)

/-- The first opening on that date. -/
def openingLater? (w : Window) (t : Instant) : Option Int :=
  (w.laterDate? t).bind fun date => (w.startsOn date).head?

/-- The opening of the window at or around an instant, as a second of universal time. Within the window it lies in the
past: there is nothing to wait for. -/
def nextOpening? (w : Window) (t : Instant) : Option Int :=
  (w.openingToday? t).or (w.openingLater? t)

/-- To look for the start on a date breaks down: the clock does not show it, and an hour later the calendar has ended. -/
def StartBreaks (w : Window) (date : Int) : Prop :=
  let clock := date * Instant.perDay + w.start * 60
  w.instantsAt clock = [] ∧ ¬ Date.InReach (dateOf (clock + perHour))

instance (w : Window) (date : Int) : Decidable (w.StartBreaks date) := inferInstanceAs (Decidable (_ ∧ _))

/-- The search for the opening at or around an instant breaks down: the present date is beyond the calendar, or to look for
one of the starts breaks down. The later start is looked for only if there is no opening on the present date. -/
def SearchBreaks (w : Window) (t : Instant) : Prop :=
  ¬ Date.InReach (w.today t) ∨ w.EndsToday t ∧ w.StartBreaks (w.today t) ∨
    w.openingToday? t = none ∧ ∃ date ∈ w.laterDate? t, w.StartBreaks date

instance (w : Window) (t : Instant) : Decidable (w.SearchBreaks t) := inferInstanceAs (Decidable (_ ∨ _))

end SecretRotation.Window
