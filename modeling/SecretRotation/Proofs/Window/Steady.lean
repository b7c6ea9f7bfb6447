import SecretRotation.Proofs.Window.Accepted
import SecretRotation.Proofs.Window.Start
import SecretRotation.Window.Gate

/-!
# Windows on steady clocks

Around an instant from which no change of offset is near, local clocks run evenly: each start is shown exactly once, as
far after the instant as it is ahead on the clock. There the search for the next opening and the wait are exact, whatever
the offset is.

## Main definitions

* `Zone.SteadyAround`: one offset is in force from two days before an instant through nine days after it.

## Main results

* `Window.exists_opening_of_steady`: outside a window the opening found is less than a week ahead, and the window stays
  shut until then.
* `Window.exists_opening_of_contains_of_steady`: within a window the opening found is the start that has passed.
* `Gate.wait_exact`: the wait at a shut gate leads exactly to the instant at which it opens.
-/

namespace SecretRotation

/-- One offset is in force from two days before an instant through nine days after it, on days that there are. -/
structure Zone.SteadyAround (z : Zone) (t : Instant) : Prop where
  first_inReach : Date.InReach (Instant.ofSeconds (t.seconds - 2 * 86400)).day
  last_inReach : Date.InReach (Instant.ofSeconds (t.seconds + 9 * 86400)).day
  constant : z.ConstantOn (t.seconds - 2 * 86400) (t.seconds + 9 * 86400)

/-- After all changes the last offset is in force. -/
theorem Zone.offsetAmong_eq_of_le {changes : List OffsetChange} {t u : Int} (h : ∀ c ∈ changes, c.start ≤ t ∧ c.start ≤ u) :
    ∀ offset, offsetAmong t offset changes = offsetAmong u offset changes := by
  induction changes with
  | nil => exact fun _ => rfl
  | cons c rest ih =>
    intro offset
    have hc := h c List.mem_cons_self
    rw [offsetAmong_cons, offsetAmong_cons, if_neg (by omega), if_neg (by omega)]
    exact ih (fun d hd => h d (List.mem_cons_of_mem _ hd)) _

theorem Zone.constantOn_of_le {z : Zone} {first : Int} (h : ∀ c ∈ z.changes, c.start ≤ first) (last : Int) :
    z.ConstantOn first last := by
  intro t hfirst _
  refine offsetAmong_eq_of_le (fun c hc => ?_) _
  have := h c hc
  omega

variable {t : Instant}

namespace Zone.SteadyAround

variable {z : Zone}

/-- Clocks are ahead by one offset, and days in between are in the calendar. -/
theorem exists_offset (h : z.SteadyAround t) (hb : z.Bounded) :
    ∃ offset, OffsetChange.WithinDay offset ∧
      ∀ s, t.seconds - 2 * 86400 ≤ s → s ≤ t.seconds + 9 * 86400 → z.localAt s = s + offset := by
  refine ⟨z.offsetAt (t.seconds - 2 * 86400), hb _, fun s hfirst hlast => ?_⟩
  rw [localAt, h.constant s hfirst hlast]

theorem inReach (h : z.SteadyAround t) {s : Int} (hfirst : t.seconds - 2 * 86400 ≤ s)
    (hlast : s ≤ t.seconds + 9 * 86400) : Date.InReach (s / 86400) := by
  have h₁ := h.first_inReach
  have h₂ := h.last_inReach
  simp only [Date.InReach, Instant.day, Instant.ofSeconds, Instant.perDay] at *
  omega

end Zone.SteadyAround

/-! ## One window -/

namespace Window

variable {w : Window}

/-- Outside a window the opening found is less than a week ahead. The window is open then and shut until then. -/
theorem exists_opening_of_steady (hs : w.zone.SteadyAround t) (hb : w.zone.Bounded) (hc : ¬ w.Contains t) :
    ∃ σ, w.nextOpening? t = some σ ∧ t.seconds < σ ∧ σ < t.seconds + 7 * 86400 ∧
      w.Contains (Instant.ofSeconds σ) ∧
      ∀ s : Instant, t.seconds ≤ s.seconds → s.seconds < σ → ¬ w.Contains s := by
  obtain ⟨offset, ⟨hlow, hhigh⟩, hlocal⟩ := hs.exists_offset hb
  have hclock : w.clockAt t = t.seconds + offset := hlocal _ (by omega) (by omega)
  obtain ⟨date, hnext⟩ := w.exists_startsNextOn (w.clockAt t)
  have hahead := hnext.ahead
  have hweek := hnext.startOn_lt hc
  have hdate := w.startOn_bounds date
  -- The clock shows the start as far from now as the start is ahead.
  obtain ⟨σ, hσ⟩ : ∃ σ, σ + offset = w.startOn date := ⟨w.startOn date - offset, by omega⟩
  have hshown : w.zone.localAt σ = w.startOn date := by rw [hlocal σ (by omega) (by omega), hσ]
  have hmem : σ ∈ w.instantsAt (w.startOn date) :=
    mem_instantsAt.mpr ⟨hshown, hs.inReach (s := σ) (by omega) (by omega)⟩
  have hreach : Date.InReach date := by
    have := hs.inReach (s := σ + offset) (by omega) (by omega)
    rwa [hσ, show w.startOn date / 86400 = date by omega] at this
  obtain ⟨x, hx, hfound, hle⟩ := nextOpening?_le hc hnext hreach hmem (by omega)
  -- Another instant with the same clock is less than two days away, and there the offset is the same.
  have hxσ : x = σ := by
    have hxlocal := (mem_instantsAt.mp hx).1
    have hxoffset := hb x
    simp only [OffsetChange.WithinDay] at hxoffset
    have hfar : x + w.zone.offsetAt x = w.startOn date := hxlocal
    rw [hlocal x (by omega) (by omega)] at hxlocal
    omega
  refine ⟨σ, hxσ ▸ hfound, by omega, by omega, ?_, fun s hts hsσ => ?_⟩
  · show w.ContainsClock (w.zone.localAt σ)
    rw [hshown]
    exact containsClock_startOn hnext.held
  · have hsclock : w.clockAt s = s.seconds + offset := hlocal _ (by omega) (by omega)
    exact hnext.not_containsClock hc (by omega) (by omega)

/-- Within a window the opening found is the start that has passed. The window has been open since, and the same opening
is found there. -/
theorem exists_opening_of_contains_of_steady (hs : w.zone.SteadyAround t) (hb : w.zone.Bounded) (hc : w.Contains t) :
    ∃ σ, w.nextOpening? t = some σ ∧ σ ≤ t.seconds ∧
      (∀ s : Instant, σ ≤ s.seconds → s.seconds ≤ t.seconds → w.Contains s) ∧
      w.nextOpening? (Instant.ofSeconds σ) = some σ := by
  obtain ⟨offset, ⟨hlow, hhigh⟩, hlocal⟩ := hs.exists_offset hb
  have hclock : w.clockAt t = t.seconds + offset := hlocal _ (by omega) (by omega)
  obtain ⟨hheld, hstart, hstop⟩ := hc
  rw [start_le_sinceMidnight_iff] at hstart
  rw [sinceMidnight_lt_stop_iff] at hstop
  obtain ⟨date, hdate⟩ : ∃ date, dateOf (w.clockAt t) = date := ⟨_, rfl⟩
  rw [hdate] at hheld hstart hstop
  have hbounds := w.startOn_bounds date
  obtain ⟨σ, hσ⟩ : ∃ σ, σ + offset = w.startOn date := ⟨w.startOn date - offset, by omega⟩
  have hshown : w.zone.localAt σ = w.startOn date := by rw [hlocal σ (by omega) (by omega), hσ]
  have hmem : σ ∈ w.instantsAt (w.startOn date) :=
    mem_instantsAt.mpr ⟨hshown, hs.inReach (s := σ) (by omega) (by omega)⟩
  have hopen : ∀ s : Instant, σ ≤ s.seconds → s.seconds ≤ t.seconds → w.Contains s := by
    intro s hfirst hlast
    have hsclock : w.clockAt s = s.seconds + offset := hlocal _ (by omega) (by omega)
    exact containsClock_iff.mpr ⟨date, hheld, by omega, by omega⟩
  have hσdate : dateOf (w.clockAt (Instant.ofSeconds σ)) = date := by
    show dateOf (w.zone.localAt σ) = date
    rw [hshown, dateOf_startOn]
  have hσle : (Instant.ofSeconds σ).seconds = σ := rfl
  refine ⟨σ, ?_, by omega, hopen, ?_⟩
  · refine nextOpening?_eq_of_contains (hopen t (by omega) (by omega)) (hdate ▸ hmem) (by omega) fun x hx hxt => ?_
    -- Instants with the same clock from two days ago on are one.
    have hxlocal := (mem_instantsAt.mp hx).1
    rw [hdate] at hxlocal
    by_cases hlong : x < t.seconds - 2 * 86400
    · omega
    · rw [hlocal x (by omega) (by omega)] at hxlocal
      omega
  · exact nextOpening?_eq_of_contains (hopen _ (by omega) (by omega)) (hσdate.symm ▸ hmem) (by omega)
      fun x _ hxσ => hxσ

end Window

/-! ## The gate -/

namespace Gate

variable {g : Gate}

/-- The gate is shut exactly if it is in force and the instant lies in none of its windows. -/
theorem not_open_iff : ¬ g.Open t ↔ g.enabled = true ∧ ∀ w ∈ g.windows, ¬ w.Contains t := by
  simp only [Open, Classical.not_imp, not_exists, not_and]

/-- The opening of the gate is the earliest of those of its windows. -/
theorem nextOpening?_eq_some_iff (henabled : g.enabled = true) {s : Int} :
    g.nextOpening? t = some s ↔
      (∃ w ∈ g.windows, w.nextOpening? t = some s) ∧
        ∀ w ∈ g.windows, ∀ x, w.nextOpening? t = some x → s ≤ x := by
  rw [nextOpening?, if_pos henabled, List.min?_eq_some_iff]
  simp only [List.mem_filterMap]
  constructor
  · rintro ⟨hmem, hmin⟩
    exact ⟨hmem, fun w hw x hx => hmin x ⟨w, hw, hx⟩⟩
  · rintro ⟨hmem, hmin⟩
    exact ⟨hmem, fun x ⟨w, hw, hx⟩ => hmin w hw x hx⟩

theorem exists_nextOpening? (henabled : g.enabled = true) {w : Window} (hw : w ∈ g.windows) {x : Int}
    (hx : w.nextOpening? t = some x) : ∃ s, g.nextOpening? t = some s ∧ s ≤ x := by
  have hmem : x ∈ g.windows.filterMap fun w => w.nextOpening? t := List.mem_filterMap.mpr ⟨w, hw, hx⟩
  obtain ⟨s, hs⟩ := Option.isSome_iff_exists.mp (List.isSome_min?_of_mem hmem)
  have hfound : g.nextOpening? t = some s := by rw [nextOpening?, if_pos henabled, hs]
  exact ⟨s, hfound, ((nextOpening?_eq_some_iff henabled).mp hfound).2 w hw x hx⟩

theorem wait_eq (hc : ¬ g.Open t) {s : Int} (hs : g.nextOpening? t = some s) :
    g.wait t = (Instant.ofSeconds s).elapsed t := by
  rw [wait, if_neg hc, hs]

/-- A shut gate of windows on steady clocks has a next opening, less than a week ahead. It is open then and shut until
then. -/
theorem exists_opening_of_steady (hw : ∀ w ∈ g.windows, w.zone.SteadyAround t ∧ w.zone.Bounded) (hc : ¬ g.Open t) :
    ∃ σ, g.nextOpening? t = some σ ∧ t.seconds < σ ∧ σ < t.seconds + 7 * 86400 ∧ g.Open (Instant.ofSeconds σ) ∧
      ∀ s : Instant, t.seconds ≤ s.seconds → s.seconds < σ → ¬ g.Open s := by
  obtain ⟨henabled, hshut⟩ := not_open_iff.mp hc
  have hwindow := fun w hw' => Window.exists_opening_of_steady (hw w hw').1 (hw w hw').2 (hshut w hw')
  obtain ⟨v, hv⟩ := List.exists_mem_of_ne_nil _ (g.windows_ne_nil henabled)
  obtain ⟨x, hx, -⟩ := hwindow v hv
  obtain ⟨σ, hσ, -⟩ := exists_nextOpening? henabled hv hx
  obtain ⟨⟨w, hmem, hfound⟩, hmin⟩ := (nextOpening?_eq_some_iff henabled).mp hσ
  obtain ⟨σ', hfound', hlater, hweek, hopen, -⟩ := hwindow w hmem
  obtain rfl : σ' = σ := by simpa [hfound'] using hfound
  refine ⟨σ', hσ, hlater, hweek, fun _ => ⟨w, hmem, hopen⟩, fun s hts hsσ hs => ?_⟩
  -- The window that admits `s` opens no earlier than the earliest one.
  obtain ⟨u, hu, hcontains⟩ := hs henabled
  obtain ⟨y, hy, -, -, -, hbefore⟩ := hwindow u hu
  have hle := hmin u hu y hy
  exact hbefore s hts (by omega) hcontains

theorem not_open_of_steady (hw : ∀ w ∈ g.windows, w.zone.SteadyAround t ∧ w.zone.Bounded) (hc : ¬ g.Open t) {s : Instant}
    (hts : t ≤ s) (hs : s < t.advance (g.wait t)) : ¬ g.Open s := by
  obtain ⟨σ, hσ, -, -, -, hshut⟩ := exists_opening_of_steady hw hc
  rw [wait_eq hc hσ] at hs
  exact hshut s (Instant.seconds_le_of_le hts) (Instant.seconds_lt_of_lt_advance_elapsed hts hs)

/-- **Exact waiting.** While a gate of accepted windows on steady clocks is shut, the wait is positive and less than a
week, it leads to the next opening, at its end the gate is open, and until then it is shut. Within any single accepted
window on steady clocks the opening found is its last start: the window has been open since, and from there the same
opening is found. -/
theorem wait_exact (ht : t.Ordinary) (hw : ∀ w ∈ g.windows, w.Accepted ∧ w.zone.SteadyAround t) :
    (¬ g.Open t →
      .zero < g.wait t ∧ g.wait t < .ofSeconds (7 * 86400) ∧
      (∃ s, g.nextOpening? t = some s ∧ Instant.ofSeconds s = t.advance (g.wait t)) ∧
      g.Open (t.advance (g.wait t)) ∧ ∀ s, t ≤ s → s < t.advance (g.wait t) → ¬ g.Open s) ∧
    ∀ w : Window, w.Accepted → w.zone.SteadyAround t → w.Contains t →
      ∃ s, w.nextOpening? t = some s ∧ Instant.ofSeconds s ≤ t ∧
        (∀ r, Instant.ofSeconds s ≤ r → r ≤ t → w.Contains r) ∧
        w.nextOpening? (Instant.ofSeconds s) = some s := by
  constructor
  · intro hc
    have hsteady := fun w hmem => And.intro (hw w hmem).2 (hw w hmem).1.bounded
    obtain ⟨σ, hσ, hlater, hweek, hopen, -⟩ := exists_opening_of_steady hsteady hc
    have hwait := wait_eq hc hσ
    have hend : t.advance (g.wait t) = Instant.ofSeconds σ := by
      rw [hwait]
      exact Instant.advance_elapsed (Instant.ordinary_ofSeconds σ) ht (Instant.le_of_lt (Instant.lt_ofSeconds.mpr hlater))
    -- In nanoseconds, as the fraction of the present second shortens the wait.
    have hcount : ((g.wait t).nanoseconds : Int) = σ * Duration.perSecond - t.count := by
      have hle := (Instant.lt_iff_count ht (Instant.ordinary_ofSeconds σ)).mp (Instant.lt_ofSeconds.mpr hlater)
      rw [hwait, Instant.nanoseconds_elapsed (Instant.ordinary_ofSeconds σ) ht]
      rw [Instant.count_ofSeconds] at *
      omega
    have hnanos : t.nanos < Duration.perSecond := ht
    simp only [Instant.count, Duration.perSecond] at hcount hnanos
    refine ⟨?_, ?_, ⟨σ, hσ, hend.symm⟩, hend ▸ hopen, fun s hts hs => not_open_of_steady hsteady hc hts hs⟩
    · rw [Duration.lt_def, Duration.nanoseconds_zero]
      omega
    · show (g.wait t).nanoseconds < 7 * 86400 * 1000000000
      omega
  · intro w haccepted hsteady hcontains
    obtain ⟨σ, hσ, hle, hopen, hagain⟩ :=
      Window.exists_opening_of_contains_of_steady hsteady haccepted.bounded hcontains
    refine ⟨σ, hσ, Instant.ofSeconds_le.mpr hle, fun r hfirst hlast => ?_, hagain⟩
    exact hopen r (Instant.ofSeconds_le.mp hfirst) (Instant.seconds_le_of_le hlast)

/-- The window of Sundays from two to four in Abidjan. -/
def abidjanSunday : Window where
  name := none
  days := [.sunday]
  start := 120
  stop := 240
  zone := ⟨"Africa/Abidjan", -968, [⟨-1830383032, 0⟩], trivial⟩
  days_ne_nil := by decide
  nodup_days := by decide
  start_lt_stop := by decide
  stop_lt := by decide

theorem steadyAround_abidjanSunday {s : Int} (hfirst : 0 ≤ s) (hlast : s ≤ 300000) :
    abidjanSunday.zone.SteadyAround (.ofSeconds s) := by
  refine ⟨?_, ?_, Zone.constantOn_of_le ?_ _⟩
  · simp only [Date.InReach, Instant.day, Instant.ofSeconds, Instant.perDay, Date.firstDay, Date.lastDay]
    omega
  · simp only [Date.InReach, Instant.day, Instant.ofSeconds, Instant.perDay, Date.firstDay, Date.lastDay]
    omega
  · simp only [abidjanSunday, Instant.ofSeconds, List.mem_singleton, forall_eq]
    omega

/-- The first Sunday of 1970 opens two and a half days after Thursday noon, and stays open through three o'clock. -/
theorem wait_exact_abidjan :
    (∃ s, (Gate.mk true [abidjanSunday] (by simp)).nextOpening? (.ofSeconds 43200) = some s ∧
      Instant.ofSeconds s =
        (Instant.ofSeconds 43200).advance ((Gate.mk true [abidjanSunday] (by simp)).wait (.ofSeconds 43200))) ∧
    ∃ s, abidjanSunday.nextOpening? (.ofSeconds 270000) = some s ∧ Instant.ofSeconds s ≤ .ofSeconds 270000 := by
  have haccepted : abidjanSunday.Accepted := ⟨⟨none, ["sunday"], "02:00", "04:00", "Africa/Abidjan"⟩, rfl⟩
  have hexact := fun s h₀ h₁ => wait_exact (g := ⟨true, [abidjanSunday], by simp⟩) (t := .ofSeconds s)
    (Instant.ordinary_ofSeconds s) fun w hw => by
      obtain rfl := List.mem_singleton.mp hw
      exact ⟨haccepted, steadyAround_abidjanSunday h₀ h₁⟩
  refine ⟨((hexact 43200 (by omega) (by omega)).1 (by decide)).2.2.1, ?_⟩
  obtain ⟨s, hs, hle, -⟩ :=
    (hexact 270000 (by omega) (by omega)).2 abidjanSunday haccepted (steadyAround_abidjanSunday (by omega) (by omega)) (by decide)
  exact ⟨s, hs, hle⟩

end Gate

end SecretRotation
