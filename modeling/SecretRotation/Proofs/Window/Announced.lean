import SecretRotation.Proofs.Field.Decision
import SecretRotation.Proofs.Window.Missed

/-!
# Openings as announced

An opening that is found is to lie in its window, and a rotation that waits for it is to be admitted then. A start that
the clock leaps over is announced for an hour later on the clock. A window that lasts no longer than that is over by then,
and is announced in vain. All other openings are as announced.

## Main definitions

* `Window.OpensInVain`: the window is announced for an instant at which it is over.

## Main results

* `Window.contains_iff_of_nextOpening?`: an opening lies in its window unless it is announced in vain.
* `Gate.open_advance_wait_iff`: when the gate is open at the end of the wait.
* `Gate.open_as_announced_iff`: both, for all windows and all rotations that are put off.
* `Gate.exists_opening_in_vain`: not all openings are as announced.
-/

namespace SecretRotation

variable {t : Instant}

namespace Window

variable {w : Window} {s date : Int}

/-- The window opens at `s`, an hour on the clock after a start that the clock never shows, and by then it is over. -/
def OpensInVain (w : Window) (s : Int) : Prop :=
  w.stop ≤ w.start + 60 ∧
    ∃ date, w.HeldOn date ∧ w.instantsAt (w.startOn date) = [] ∧ s ∈ w.instantsAt (w.startOn date + perHour)

/-! ## Openings in their windows -/

/-- Openings are looked for among the starts of dates with the window. -/
theorem mem_startsOn_of_nextOpening? (h : w.nextOpening? t = some s) : ∃ date, w.HeldOn date ∧ s ∈ w.startsOn date := by
  rw [nextOpening?, Option.or_eq_some_iff] at h
  rcases h with htoday | ⟨-, hlater⟩
  · simp only [openingToday?] at htoday
    split at htoday
    · rename_i hheld
      refine ⟨_, hheld.1, ?_⟩
      split at htoday
      · rcases Option.or_eq_some_iff.mp htoday with hlast | ⟨-, hfirst⟩
        · exact (List.mem_filter.mp (List.mem_of_getLast? hlast)).1
        · exact List.mem_of_head? hfirst
      · exact List.mem_of_find?_eq_some htoday
    · cases htoday
  · obtain ⟨date, hdate, hfirst⟩ := Option.bind_eq_some_iff.mp hlater
    exact ⟨date, (laterDate?_bounds hdate).1, List.mem_of_head? hfirst⟩

/-- An hour after its start a window is still open exactly if it lasts longer than that. No other date comes into it: a
start moved beyond midnight is too early for the window of the next day. -/
theorem containsClock_startOn_add_perHour (hheld : w.HeldOn date) :
    w.ContainsClock (w.startOn date + perHour) ↔ w.start + 60 < w.stop := by
  have hdate := w.startOn_bounds date
  have hlength : w.stopOn date = w.startOn date + (w.stop * 60 - w.start * 60 : Int) := by
    simp only [startOn, stopOn]
    omega
  rw [containsClock_iff]
  simp only [perHour]
  constructor
  · rintro ⟨d, -, hstart, hstop⟩
    have hd := w.startOn_bounds d
    have hsame : w.startOn d - w.startOn date = (d - date) * 86400 := by
      simp only [startOn, Instant.perDay]
      omega
    obtain rfl : d = date := by omega
    omega
  · intro hlong
    exact ⟨date, hheld, by omega, by omega⟩

/-- The opening that is found lies in its window unless it is announced in vain. -/
theorem contains_iff_of_nextOpening? (h : w.nextOpening? t = some s) :
    w.Contains (.ofSeconds s) ↔ ¬ w.OpensInVain s := by
  obtain ⟨date, hheld, hs⟩ := mem_startsOn_of_nextOpening? h
  show w.ContainsClock (w.zone.localAt s) ↔ _
  constructor
  · rintro hcontains ⟨hshort, d, hd, -, hmoved⟩
    rw [(mem_instantsAt.mp hmoved).1, containsClock_startOn_add_perHour hd] at hcontains
    omega
  · intro hnot
    rcases mem_startsOn.mp hs with hshown | ⟨hnone, hmoved⟩
    · rw [(mem_instantsAt.mp hshown).1]
      exact containsClock_startOn hheld
    · rw [(mem_instantsAt.mp hmoved).1, containsClock_startOn_add_perHour hheld]
      exact Nat.not_le.mp fun hshort => hnot ⟨hshort, date, hheld, hnone, hmoved⟩

end Window

/-! ## The end of a wait -/

namespace Gate

variable {g : Gate}

/-- A wait that takes no time leads nowhere. -/
theorem exists_later_of_open_advance_wait (hc : ¬ g.Open t) (hopen : g.Open (t.advance (g.wait t))) :
    ∃ s, g.nextOpening? t = some s ∧ t.seconds < s := by
  cases hnext : g.nextOpening? t with
  | none =>
    have hzero : g.wait t = .zero := by rw [wait, if_neg hc, hnext]
    rw [hzero, Instant.advance_zero] at hopen
    exact absurd hopen hc
  | some s =>
    refine ⟨s, rfl, Int.not_le.mp fun hle => ?_⟩
    rw [wait_eq hc hnext, Instant.elapsed_of_le hle, Instant.advance_zero] at hopen
    exact hc hopen

/-- The gate is open at the end of a wait for an opening to come exactly if some window is open in the second then. -/
theorem open_advance_wait_iff_contains (hc : ¬ g.Open t) {s : Int} (hnext : g.nextOpening? t = some s)
    (hlater : t.seconds < s) :
    g.Open (t.advance (g.wait t)) ↔ ∃ w ∈ g.windows, w.Contains (.ofSeconds (t.arrival s)) := by
  have hsecond : (t.advance (g.wait t)).seconds = t.arrival s := by
    rw [wait_eq hc hnext, Instant.seconds_advance_elapsed hlater]
  have hclock : ∀ w : Window, w.Contains (t.advance (g.wait t)) ↔ w.Contains (.ofSeconds (t.arrival s)) := by
    intro w
    rw [Window.Contains, Window.clockAt, hsecond]
    rfl
  simp only [Open, (not_open_iff.mp hc).1, true_imp_iff, hclock]

/-- At the end of a wait the gate is open exactly if the opening announced is to come and is not in vain, unless the wait
comes out a second short, or if a window is open then that was missed. -/
theorem open_advance_wait_iff (hc : ¬ g.Open t) : g.Open (t.advance (g.wait t)) ↔
    ∃ s, g.nextOpening? t = some s ∧ t.seconds < s ∧ ∃ w ∈ g.windows,
      (w.nextOpening? t = some s ∧ ¬ w.OpensInVain s ∧ t.arrival s = s) ∨
        w.Reenters t (.ofSeconds (t.arrival s)) ∨ w.LeapsIn t (.ofSeconds (t.arrival s)) := by
  obtain ⟨henabled, hshut⟩ := not_open_iff.mp hc
  constructor
  · intro hopen
    obtain ⟨s, hnext, hlater⟩ := exists_later_of_open_advance_wait hc hopen
    obtain ⟨w, hw, hcontains⟩ := (open_advance_wait_iff_contains hc hnext hlater).mp hopen
    refine ⟨s, hnext, hlater, w, hw, ?_⟩
    by_cases hback : w.Reenters t (.ofSeconds (t.arrival s))
    · exact .inr (.inl hback)
    by_cases hleap : w.LeapsIn t (.ofSeconds (t.arrival s))
    · exact .inr (.inr hleap)
    -- Then the window is announced by the end of the wait, and none is announced before `s`.
    obtain ⟨x, hx, hle⟩ := Window.exists_nextOpening?_le (hshut w hw) hcontains hback hleap
    have hearliest := ((nextOpening?_eq_some_iff henabled).mp hnext).2 w hw x hx
    have harrival := t.arrival_le s
    simp only [Instant.ofSeconds] at hle
    obtain rfl : x = s := by omega
    have hend : t.arrival x = x := by omega
    rw [hend] at hcontains
    exact .inl ⟨hx, (Window.contains_iff_of_nextOpening? hx).mp hcontains, hend⟩
  · rintro ⟨s, hnext, hlater, w, hw, hcause⟩
    refine (open_advance_wait_iff_contains hc hnext hlater).mpr ⟨w, hw, ?_⟩
    rcases hcause with ⟨hx, hnot, hend⟩ | hback | hleap
    · rw [hend]
      exact (Window.contains_iff_of_nextOpening? hx).mpr hnot
    · exact hback.contains
    · exact hleap.1

/-- **Openings as announced.** The opening that a window announces lies in it unless it is announced in vain. A rotation
that is put off is admitted at the end of its wait exactly if the opening it waits for is to come and is not in vain,
unless the wait comes out a second short, or if a window is open then that was missed. -/
theorem open_as_announced_iff (t : Instant) :
    (∀ (w : Window) (s : Int), w.nextOpening? t = some s → (w.Contains (.ofSeconds s) ↔ ¬ w.OpensInVain s)) ∧
      ∀ (g : Gate) (state : FieldState) (minimum wait : Duration), Decision.make state minimum g t = .defer wait →
        (g.Open (t.advance wait) ↔ ∃ s, g.nextOpening? t = some s ∧ t.seconds < s ∧ ∃ w ∈ g.windows,
          (w.nextOpening? t = some s ∧ ¬ w.OpensInVain s ∧ t.arrival s = s) ∨
            w.Reenters t (.ofSeconds (t.arrival s)) ∨ w.LeapsIn t (.ofSeconds (t.arrival s))) := by
  refine ⟨fun w s h => Window.contains_iff_of_nextOpening? h, fun g state minimum wait hdefer => ?_⟩
  obtain ⟨hshut, rfl⟩ := Decision.eq_wait_of_make_eq_defer hdefer
  exact open_advance_wait_iff hshut

/-- In Abidjan a value of the start of 1970 that is to be replaced each hour is put off on Thursday noon, and admitted on
Sunday at two. -/
theorem open_as_announced_abidjan :
    abidjanSunday.Contains (.ofSeconds 266400) ∧
      (Gate.mk true [abidjanSunday] (by simp)).Open ((Instant.ofSeconds 43200).advance (.ofSeconds 223200)) := by
  have hexact := open_as_announced_iff (.ofSeconds 43200)
  have hnext : abidjanSunday.nextOpening? (.ofSeconds 43200) = some 266400 := by decide
  have hlong : ¬ abidjanSunday.OpensInVain 266400 := fun h => absurd h.1 (by decide)
  refine ⟨(hexact.1 _ _ hnext).mpr hlong, ?_⟩
  refine (hexact.2 ⟨true, [abidjanSunday], by simp⟩ ⟨true, some (.ofSeconds 3600), some (.ofSeconds 0)⟩ .zero _ ?_).mpr ?_
  · decide
  · exact ⟨266400, by decide, by decide, abidjanSunday, List.mem_singleton_self _, .inl ⟨hnext, hlong, by decide⟩⟩

/-- Sundays from half past two to ten past three in Berlin. -/
def berlinSkipped : WindowText := ⟨none, ["sunday"], "02:30", "03:10", "Europe/Berlin"⟩

/-- In Berlin the last Sunday of March 2026 has no half past two: the clock leaps from two to three. At one o'clock, which
is midnight universal time, half past three is announced, when the window is over for the day. -/
theorem berlinSkipped_announces :
    ∃ w ∈ berlinSkipped.build.toOption, ¬ w.Contains (.ofSeconds 1774742400) ∧
      w.nextOpening? (.ofSeconds 1774742400) = some 1774747800 ∧ ¬ w.Contains (.ofSeconds 1774747800) := by
  decide +kernel

/-- Not all openings of accepted windows are as announced. -/
theorem exists_opening_in_vain :
    ¬ ((∀ (w : Window) (t : Instant), w.Accepted → ¬ w.Contains t → ∀ s, w.nextOpening? t = some s →
          w.Contains (.ofSeconds s)) ∧
        ∀ (g : Gate) (t : Instant) (state : FieldState) (minimum wait : Duration), (∀ w ∈ g.windows, w.Accepted) →
          Decision.make state minimum g t = .defer wait → g.Open (t.advance wait)) := by
  rintro ⟨hall, -⟩
  obtain ⟨w, hw, hshut, hnext, hover⟩ := berlinSkipped_announces
  exact hover (hall w _ ⟨berlinSkipped, eq_ok_of_mem_toOption hw⟩ hshut _ hnext)

end Gate

end SecretRotation
