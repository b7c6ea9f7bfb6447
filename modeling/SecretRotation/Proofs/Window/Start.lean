import Mathlib.Data.Int.LeastGreatest
import SecretRotation.Proofs.Instant.Line
import SecretRotation.Proofs.Zone.Clock
import SecretRotation.Window.Opening

/-!
# Starts of windows

A window starts once on each date on which it is held. Read off the local clock there is always a next start, at most a
week ahead, and until the clock shows it the window stays shut. The search for the next opening finds the instants at
which the clock shows that start.

## Main definitions

* `Window.startOn`, `Window.stopOn`: start and end of the window on a date, on the local clock.
* `Window.StartsNextOn`, `Window.HeldNextAfter`: the date of the next start, and the next date with the window.

## Main results

* `Window.containsClock_iff`: a clock is within the window exactly if it is between a start and the end of that date.
* `Window.exists_startsNextOn`: there is a next start within a week.
* `Window.nextOpening?_le`: the search finds the first instant at which the clock shows the next start, or one before it.
* `Window.nextOpening?_eq_of_contains`: within a window the search finds the last start that has passed.
-/

namespace SecretRotation

/-- Every seven days in a row have all weekdays. -/
theorem Weekday.exists_ofDay_eq (k : Weekday) (first : Int) : ∃ day, first ≤ day ∧ day < first + 7 ∧ ofDay day = k := by
  have h : ∀ r : Int, first ≤ first + (r - first) % 7 ∧ first + (r - first) % 7 < first + 7 ∧
      (first + (r - first) % 7) % 7 = r % 7 := by
    intro r
    omega
  cases k with
  | thursday => exact ⟨_, (h 0).1, (h 0).2.1, by rw [ofDay, (h 0).2.2]; rfl⟩
  | friday => exact ⟨_, (h 1).1, (h 1).2.1, by rw [ofDay, (h 1).2.2]; rfl⟩
  | saturday => exact ⟨_, (h 2).1, (h 2).2.1, by rw [ofDay, (h 2).2.2]; rfl⟩
  | sunday => exact ⟨_, (h 3).1, (h 3).2.1, by rw [ofDay, (h 3).2.2]; rfl⟩
  | monday => exact ⟨_, (h 4).1, (h 4).2.1, by rw [ofDay, (h 4).2.2]; rfl⟩
  | tuesday => exact ⟨_, (h 5).1, (h 5).2.1, by rw [ofDay, (h 5).2.2]; rfl⟩
  | wednesday => exact ⟨_, (h 6).1, (h 6).2.1, by rw [ofDay, (h 6).2.2]; rfl⟩

theorem Weekday.ofDay_add_seven (day : Int) : ofDay (day + 7) = ofDay day := by
  simp [ofDay]

namespace Window

variable {w : Window} {t : Instant} {clock date d r σ : Int}

/-! ## Seconds in order -/

section Ordered

variable {l : List Int} {p : Int → Bool}

/-- The first of some seconds in order is not after any other. -/
theorem head?_le_of_mem (hl : l.Pairwise (· < ·)) (hr : r ∈ l) : ∃ x ∈ l, l.head? = some x ∧ x ≤ r := by
  cases l with
  | nil => simp at hr
  | cons a rest =>
    refine ⟨a, List.mem_cons_self, rfl, ?_⟩
    rcases List.mem_cons.mp hr with rfl | hr
    · exact Int.le_refl _
    · exact Int.le_of_lt (List.rel_of_pairwise_cons hl hr)

theorem find?_le_of_mem (hl : l.Pairwise (· < ·)) (hr : r ∈ l) (hp : p r) : ∃ x ∈ l, l.find? p = some x ∧ x ≤ r := by
  have hfilter := head?_le_of_mem (hl.filter p) (List.mem_filter.mpr ⟨hr, hp⟩)
  obtain ⟨x, hx, hhead, hle⟩ := hfilter
  rw [List.head?_filter] at hhead
  exact ⟨x, (List.mem_filter.mp hx).1, hhead, hle⟩

/-- The last of some seconds in order with a property is the greatest one with it. -/
theorem getLast?_filter_eq (hl : l.Pairwise (· < ·)) (hσ : σ ∈ l) (hp : p σ) (hmax : ∀ x ∈ l, p x → x ≤ σ) :
    (l.filter p).getLast? = some σ := by
  obtain ⟨before, after, heq⟩ := List.append_of_mem (List.mem_filter.mpr ⟨hσ, hp⟩)
  -- Whatever came after it with the property would be greater.
  have hafter : after = [] := by
    refine List.eq_nil_iff_forall_not_mem.mpr fun x hx => ?_
    have hmem : x ∈ l.filter p := by simp [heq, hx]
    have hlt : σ < x := by
      have hpair := hl.filter p
      rw [heq] at hpair
      exact List.rel_of_pairwise_cons (List.pairwise_append.mp hpair).2.1 hx
    have := hmax x (List.mem_filter.mp hmem).1 (List.mem_filter.mp hmem).2
    omega
  exact List.getLast?_eq_some_iff.mpr ⟨before, by rw [heq, hafter]⟩

end Ordered

/-! ## Starts on the local clock -/

/-- The start of the window on a date, on the local clock. -/
def startOn (w : Window) (date : Int) : Int := date * Instant.perDay + w.start * 60

/-- The end of the window on a date, on the local clock. -/
def stopOn (w : Window) (date : Int) : Int := date * Instant.perDay + w.stop * 60

theorem startOn_lt_stopOn (w : Window) (date : Int) : w.startOn date < w.stopOn date := by
  have := w.start_lt_stop
  simp only [startOn, stopOn]
  omega

/-- A start is on its date. -/
theorem startOn_bounds (w : Window) (date : Int) :
    date * 86400 ≤ w.startOn date ∧ w.startOn date < w.stopOn date ∧ w.stopOn date < date * 86400 + 86400 := by
  have := w.start_lt_stop
  have := w.stop_lt
  simp only [startOn, stopOn, minutesPerDay, Instant.perDay] at *
  omega

theorem dateOf_eq_iff : dateOf clock = date ↔ date * 86400 ≤ clock ∧ clock < date * 86400 + 86400 := by
  simp only [dateOf, Instant.perDay]
  omega

@[simp] theorem dateOf_startOn (w : Window) (date : Int) : dateOf (w.startOn date) = date := by
  have := w.startOn_bounds date
  rw [dateOf_eq_iff]
  omega

theorem startOn_le_startOn (w : Window) (h : date ≤ d) : w.startOn date ≤ w.startOn d := by
  simp only [startOn, Instant.perDay]
  omega

theorem sinceMidnight_lt_stop_iff : sinceMidnight clock < w.stop * 60 ↔ clock < w.stopOn (dateOf clock) := by
  simp only [sinceMidnight, stopOn, dateOf, Instant.perDay]
  omega

theorem start_le_sinceMidnight_iff : w.start * 60 ≤ sinceMidnight clock ↔ w.startOn (dateOf clock) ≤ clock := by
  simp only [sinceMidnight, startOn, dateOf, Instant.perDay]
  omega

/-- A clock is within the window exactly if it is between start and end of a date on which the window is held. -/
theorem containsClock_iff :
    w.ContainsClock clock ↔ ∃ date, w.HeldOn date ∧ w.startOn date ≤ clock ∧ clock < w.stopOn date := by
  rw [ContainsClock, sinceMidnight_lt_stop_iff, start_le_sinceMidnight_iff]
  constructor
  · exact fun h => ⟨_, h⟩
  · rintro ⟨date, hheld, hstart, hstop⟩
    have := w.startOn_bounds date
    obtain rfl : dateOf clock = date := dateOf_eq_iff.mpr (by omega)
    exact ⟨hheld, hstart, hstop⟩

theorem containsClock_startOn (h : w.HeldOn date) : w.ContainsClock (w.startOn date) :=
  containsClock_iff.mpr ⟨date, h, Int.le_refl _, w.startOn_lt_stopOn date⟩

theorem heldOn_add_seven : w.HeldOn (date + 7) ↔ w.HeldOn date := by
  rw [HeldOn, HeldOn, Weekday.ofDay_add_seven]

/-- The window is held on some of every seven days in a row. -/
theorem exists_heldOn (w : Window) (first : Int) : ∃ date, first ≤ date ∧ date < first + 7 ∧ w.HeldOn date := by
  obtain ⟨k, hk⟩ := List.exists_mem_of_ne_nil _ w.days_ne_nil
  obtain ⟨date, hfirst, hlast, rfl⟩ := k.exists_ofDay_eq first
  exact ⟨date, hfirst, hlast, hk⟩

/-! ## The next start -/

/-- The first date on which the window has its start ahead of the clock. -/
structure StartsNextOn (w : Window) (clock date : Int) : Prop where
  held : w.HeldOn date
  ahead : clock < w.startOn date
  least : ∀ d, w.HeldOn d → clock < w.startOn d → date ≤ d

namespace StartsNextOn

theorem dateOf_le (h : w.StartsNextOn clock date) : dateOf clock ≤ date := by
  have := h.ahead
  have := w.startOn_bounds date
  have := dateOf_eq_iff.mp (rfl : dateOf clock = _)
  omega

/-- The next start is today or on one of the next seven days. -/
theorem le_dateOf_add_seven (h : w.StartsNextOn clock date) : date ≤ dateOf clock + 7 := by
  obtain ⟨d, hfirst, hlast, hheld⟩ := w.exists_heldOn (dateOf clock + 1)
  have := w.startOn_bounds d
  have := dateOf_eq_iff.mp (rfl : dateOf clock = _)
  have := h.least d hheld (by omega)
  omega

/-- Outside the window the next start is less than a week ahead. -/
theorem startOn_lt (h : w.StartsNextOn clock date) (hc : ¬ w.ContainsClock clock) :
    w.startOn date < clock + 7 * 86400 := by
  refine Int.lt_of_not_ge fun hge => ?_
  have hdate := dateOf_eq_iff.mp (rfl : dateOf clock = _)
  have hlast := h.le_dateOf_add_seven
  have hstart := w.startOn_bounds date
  obtain rfl : date = dateOf clock + 7 := by omega
  -- A week earlier there is a start too, which then is exactly now.
  have hheld := heldOn_add_seven.mp h.held
  have hweek : w.startOn (dateOf clock + 7) = w.startOn (dateOf clock) + 7 * 86400 := by
    simp only [startOn, Instant.perDay]
    omega
  have hnow : ¬ clock < w.startOn (dateOf clock) := fun hlt => by
    have := h.least _ hheld hlt
    omega
  refine hc (containsClock_iff.mpr ⟨_, hheld, by omega, ?_⟩)
  have := w.startOn_lt_stopOn (dateOf clock)
  omega

/-- No clock from outside the window up to its next start is within it. -/
theorem not_containsClock (h : w.StartsNextOn clock date) (hc : ¬ w.ContainsClock clock) {later : Int}
    (hle : clock ≤ later) (hlt : later < w.startOn date) : ¬ w.ContainsClock later := by
  intro hcontains
  obtain ⟨d, hheld, hstart, hstop⟩ := containsClock_iff.mp hcontains
  by_cases hd : clock < w.startOn d
  · have := w.startOn_le_startOn (h.least d hheld hd)
    omega
  · exact hc (containsClock_iff.mpr ⟨d, hheld, by omega, by omega⟩)

end StartsNextOn

theorem exists_startsNextOn (w : Window) (clock : Int) : ∃ date, w.StartsNextOn clock date := by
  -- No date before today has its start ahead, and some date of the next seven days does.
  have hbelow : ∃ b, ∀ d, w.HeldOn d ∧ clock < w.startOn d → b ≤ d := by
    refine ⟨dateOf clock, fun d hd => ?_⟩
    have := w.startOn_bounds d
    have := dateOf_eq_iff.mp (rfl : dateOf clock = _)
    omega
  have hsome : ∃ d, w.HeldOn d ∧ clock < w.startOn d := by
    obtain ⟨d, hfirst, -, hheld⟩ := w.exists_heldOn (dateOf clock + 1)
    have := w.startOn_bounds d
    have := dateOf_eq_iff.mp (rfl : dateOf clock = _)
    exact ⟨d, hheld, by omega⟩
  obtain ⟨date, ⟨hheld, hahead⟩, hleast⟩ := Int.exists_least_of_bdd hbelow hsome
  exact ⟨date, hheld, hahead, fun d hd hlt => hleast d ⟨hd, hlt⟩⟩

/-- The first date after another one on which the window is held. -/
structure HeldNextAfter (w : Window) (today date : Int) : Prop where
  held : w.HeldOn date
  after : today < date
  least : ∀ d, w.HeldOn d → today < d → date ≤ d

theorem HeldNextAfter.le_add_seven {today : Int} (h : w.HeldNextAfter today date) : date ≤ today + 7 := by
  obtain ⟨d, hfirst, hlast, hheld⟩ := w.exists_heldOn (today + 1)
  have := h.least d hheld (by omega)
  omega

theorem exists_heldNextAfter (w : Window) (today : Int) : ∃ date, w.HeldNextAfter today date := by
  obtain ⟨d, hfirst, -, hheld⟩ := w.exists_heldOn (today + 1)
  obtain ⟨date, ⟨hheld, hafter⟩, hleast⟩ :=
    Int.exists_least_of_bdd (P := fun d => w.HeldOn d ∧ today < d) ⟨today, fun d hd => by omega⟩ ⟨d, hheld, by omega⟩
  exact ⟨date, hheld, hafter, fun d hd hlt => hleast d ⟨hd, hlt⟩⟩

/-- A later date with the window has its start ahead of the clock. -/
theorem StartsNextOn.heldNextAfter (h : w.StartsNextOn clock date) (hdate : dateOf clock < date) :
    w.HeldNextAfter (dateOf clock) date := by
  refine ⟨h.held, hdate, fun d hd hlt => h.least d hd ?_⟩
  have := w.startOn_bounds d
  have := dateOf_eq_iff.mp (rfl : dateOf clock = _)
  omega

/-! ## The search -/

theorem mem_instantsAt : r ∈ w.instantsAt clock ↔ w.zone.localAt r = clock ∧ Date.InReach (Instant.ofSeconds r).day := by
  rw [instantsAt, List.mem_filter, Zone.mem_instantsAt, decide_eq_true_eq]

theorem pairwise_instantsAt (w : Window) (clock : Int) : (w.instantsAt clock).Pairwise (· < ·) :=
  (w.zone.pairwise_instantsAt clock).filter _

/-- A start that the clock shows is not moved. -/
theorem startsOn_eq (hr : r ∈ w.instantsAt (w.startOn date)) : w.startsOn date = w.instantsAt (w.startOn date) := by
  simp only [startsOn]
  split
  · rename_i hnil
    rw [startOn, hnil] at hr
    simp at hr
  · rfl

/-- A start that the clock does not show is moved by an hour. -/
theorem mem_startsOn : r ∈ w.startsOn date ↔
    r ∈ w.instantsAt (w.startOn date) ∨
      w.instantsAt (w.startOn date) = [] ∧ r ∈ w.instantsAt (w.startOn date + perHour) := by
  simp only [startsOn]
  split
  · rename_i hnil
    rw [startOn, hnil]
    simp
  · rename_i hne
    exact ⟨Or.inl, fun h => h.resolve_right fun hmoved => hne hmoved.1⟩

/-- The clock never reads less than the start when the window opens. -/
theorem startOn_le_of_mem_startsOn (hr : r ∈ w.startsOn date) : w.startOn date ≤ w.zone.localAt r := by
  rcases mem_startsOn.mp hr with hshown | ⟨-, hmoved⟩
  · rw [(mem_instantsAt.mp hshown).1]
  · rw [(mem_instantsAt.mp hmoved).1, perHour]
    omega

theorem pairwise_startsOn (w : Window) (date : Int) : (w.startsOn date).Pairwise (· < ·) := by
  simp only [startsOn]
  split
  · exact w.pairwise_instantsAt _
  · exact w.pairwise_instantsAt _

/-- Before today's start its instants still to come are searched. -/
theorem openingToday?_eq_find? (hc : ¬ w.Contains t) (hheld : w.HeldOn (dateOf (w.clockAt t)))
    (hahead : w.clockAt t < w.startOn (dateOf (w.clockAt t))) :
    w.openingToday? t = (w.startsOn (dateOf (w.clockAt t))).find? fun s => t ≤ Instant.ofSeconds s := by
  have hstop := w.startOn_lt_stopOn (dateOf (w.clockAt t))
  have hends : w.EndsToday t := ⟨hheld, sinceMidnight_lt_stop_iff.mpr (by omega)⟩
  simp only [openingToday?, today]
  rw [if_pos hends, if_neg hc]

theorem openingToday?_eq_none (hc : ¬ w.Contains t) (hahead : ¬ (w.HeldOn (dateOf (w.clockAt t)) ∧
    w.clockAt t < w.startOn (dateOf (w.clockAt t)))) : w.openingToday? t = none := by
  refine if_neg ?_
  rintro ⟨hheld, hstop⟩
  rw [sinceMidnight_lt_stop_iff] at hstop
  rw [today] at hheld
  by_cases hlt : w.clockAt t < w.startOn (dateOf (w.clockAt t))
  · exact hahead ⟨hheld, hlt⟩
  · exact hc (containsClock_iff.mpr ⟨_, hheld, by omega, hstop⟩)

/-- From the next day on the next date on which the window is held is searched. -/
theorem laterDate?_eq_some (h : w.HeldNextAfter (dateOf (w.clockAt t)) date) (hreach : Date.InReach date) :
    w.laterDate? t = some date := by
  have hafter := h.after
  have hweek := h.le_add_seven
  obtain ⟨ahead, hahead⟩ := Int.eq_ofNat_of_zero_le (show 0 ≤ date - dateOf (w.clockAt t) by omega)
  obtain rfl : dateOf (w.clockAt t) + (ahead : Nat) = date := by omega
  have hfind : (List.range' 1 7).find? (fun ahead => Date.InReach (dateOf (w.clockAt t) + (ahead : Nat)) ∧
      w.HeldOn (dateOf (w.clockAt t) + (ahead : Nat))) = some ahead := by
    refine List.find?_range'_eq_some.mpr ⟨by simp [hreach, h.held], by simp; omega, fun j hj hlt => ?_⟩
    have hskipped : ¬ w.HeldOn (dateOf (w.clockAt t) + j) := fun hheld => by
      have := h.least _ hheld (by omega)
      omega
    simp [hskipped]
  rw [laterDate?, today, hfind, Option.map_some]

/-- A later date that is searched is one of the next seven of the calendar, and the window is held on it. -/
theorem laterDate?_bounds (h : w.laterDate? t = some date) :
    w.HeldOn date ∧ Date.InReach date ∧ w.today t < date ∧ date ≤ w.today t + 7 := by
  obtain ⟨ahead, hfound, rfl⟩ := Option.map_eq_some_iff.mp h
  have hheld := List.find?_some hfound
  have hrange := List.mem_range'_1.mp (List.mem_of_find?_eq_some hfound)
  rw [decide_eq_true_eq] at hheld
  exact ⟨hheld.2, hheld.1, by omega, by omega⟩

theorem openingLater?_eq_head? (h : w.HeldNextAfter (dateOf (w.clockAt t)) date) (hreach : Date.InReach date) :
    w.openingLater? t = (w.startsOn date).head? := by
  rw [openingLater?, laterDate?_eq_some h hreach, Option.bind_some]

/-- Outside the window the search finds an instant at which the clock shows the next start, none after any that is still
to come. -/
theorem nextOpening?_le (hc : ¬ w.Contains t) (h : w.StartsNextOn (w.clockAt t) date) (hreach : Date.InReach date)
    (hr : r ∈ w.instantsAt (w.startOn date)) (ht : t.seconds ≤ r) :
    ∃ x ∈ w.instantsAt (w.startOn date), w.nextOpening? t = some x ∧ x ≤ r := by
  have hstarts := startsOn_eq hr
  have hpair := w.pairwise_instantsAt (w.startOn date)
  by_cases hdate : date = dateOf (w.clockAt t)
  · -- The clock does not show the start at `t` itself, so that `r` is later.
    have hne : t.seconds ≠ r := fun heq => by
      have hshown := (mem_instantsAt.mp hr).1
      have hahead := h.ahead
      rw [clockAt, heq, hshown] at hahead
      omega
    have hlater : t ≤ Instant.ofSeconds r := Instant.le_of_lt (Instant.lt_ofSeconds.mpr (by omega))
    obtain ⟨x, hx, hfind, hle⟩ := find?_le_of_mem (p := fun s => t ≤ Instant.ofSeconds s) hpair hr (by simpa using hlater)
    refine ⟨x, hx, ?_, hle⟩
    rw [nextOpening?, openingToday?_eq_find? hc (hdate ▸ h.held) (hdate ▸ h.ahead), ← hdate, hstarts, hfind,
      Option.some_or]
  · have hlt : dateOf (w.clockAt t) < date := by
      have := h.dateOf_le
      omega
    obtain ⟨x, hx, hhead, hle⟩ := head?_le_of_mem hpair hr
    have htoday : w.openingToday? t = none := by
      refine openingToday?_eq_none hc ?_
      rintro ⟨hheld, hahead⟩
      have := h.least _ hheld hahead
      omega
    refine ⟨x, hx, ?_, hle⟩
    rw [nextOpening?, htoday, Option.none_or, openingLater?_eq_head? (h.heldNextAfter hlt) hreach, hstarts, hhead]

/-- Within the window the search finds the last instant not to come at which the clock shows the start of the day. -/
theorem nextOpening?_eq_of_contains (hc : w.Contains t) (hσ : σ ∈ w.instantsAt (w.startOn (dateOf (w.clockAt t))))
    (hle : σ ≤ t.seconds) (hmax : ∀ x ∈ w.instantsAt (w.startOn (dateOf (w.clockAt t))), x ≤ t.seconds → x ≤ σ) :
    w.nextOpening? t = some σ := by
  have hlast : ((w.instantsAt (w.startOn (dateOf (w.clockAt t)))).filter fun s => Instant.ofSeconds s ≤ t).getLast? =
      some σ := by
    refine getLast?_filter_eq (w.pairwise_instantsAt _) hσ ?_ fun x hx hxt => hmax x hx ?_
    · simpa using Instant.ofSeconds_le.mpr hle
    · exact Instant.ofSeconds_le.mp (by simpa using hxt)
  have htoday : w.openingToday? t = some σ := by
    have hends : w.EndsToday t := ⟨hc.1, hc.2.2⟩
    simp only [openingToday?, today]
    rw [if_pos hends, if_pos hc, startsOn_eq hσ, hlast, Option.some_or]
  rw [nextOpening?, htoday, Option.some_or]

end Window

end SecretRotation
