import SecretRotation.Calendar

/-!
# Moments of change

The law says when clocks are changed: on the last Sunday of October, say, at two o'clock. Such a day is found in each year,
and such a time is read from one of three clocks, so that the instant depends on how far the clocks are ahead just then.

## Main definitions

* `MonthDay`: a day of a month, by its number or by its weekday.
* `Clock`, `ClockTime`: a time of day and the clock that it is read from.
* `Moment`, `Moment.second`: a moment of a year, and the instant that it names.
-/

namespace SecretRotation

namespace Weekday

/-- The first day from day zero on that is a weekday. -/
def firstDay : Weekday → Int
  | thursday => 0
  | friday => 1
  | saturday => 2
  | sunday => 3
  | monday => 4
  | tuesday => 5
  | wednesday => 6

/-- The first day from `day` on that is a weekday. -/
def onOrAfter (w : Weekday) (day : Int) : Int := day + (w.firstDay - day) % 7

/-- The last day up to `day` that is a weekday. -/
def onOrBefore (w : Weekday) (day : Int) : Int := day - (day - w.firstDay) % 7

theorem ofDay_of_mod_eq {w : Weekday} {day : Int} (h : day % 7 = w.firstDay) : ofDay day = w := by
  rw [ofDay, h]
  cases w <;> rfl

theorem ofDay_onOrAfter (w : Weekday) (day : Int) : ofDay (w.onOrAfter day) = w := by
  apply ofDay_of_mod_eq
  cases w <;> simp only [onOrAfter, firstDay] <;> omega

theorem ofDay_onOrBefore (w : Weekday) (day : Int) : ofDay (w.onOrBefore day) = w := by
  apply ofDay_of_mod_eq
  cases w <;> simp only [onOrBefore, firstDay] <;> omega

end Weekday

/-- A day of a month. Those given by a weekday may fall into a neighbouring month. -/
inductive MonthDay where
  | on (day : Nat)
  | last (weekday : Weekday)
  | onOrAfter (weekday : Weekday) (day : Nat)
  | onOrBefore (weekday : Weekday) (day : Nat)
deriving DecidableEq

/-- The day in a month of a year. -/
def MonthDay.inMonth (year month : Nat) : MonthDay → Int
  | on day => Date.toDay ⟨year, month, day⟩
  | last weekday => weekday.onOrBefore (Date.toDay ⟨year, month, Date.monthLength year month⟩)
  | onOrAfter weekday day => weekday.onOrAfter (Date.toDay ⟨year, month, day⟩)
  | onOrBefore weekday day => weekday.onOrBefore (Date.toDay ⟨year, month, day⟩)

/-- The clocks that a time can be read from. -/
inductive Clock where
  /-- The clock on the wall. -/
  | wall
  /-- A clock that is never put forward for the summer. -/
  | standard
  | universal
deriving DecidableEq

/-- How far a clock is ahead of universal time, when standard time is `offset` ahead and clocks on the wall `saving`
more. -/
def Clock.lead (offset saving : Int) : Clock → Int
  | wall => offset + saving
  | standard => offset
  | universal => 0

/-- The seconds since midnight on a clock. They may reach into the next day. -/
structure ClockTime where
  clock : Clock
  seconds : Nat
deriving DecidableEq

namespace ClockTime

/-- Hours and minutes on the wall. -/
def wall (hours minutes : Nat) : ClockTime := ⟨.wall, hours * 3600 + minutes * 60⟩

/-- Hours and minutes of standard time. -/
def standard (hours minutes : Nat) : ClockTime := ⟨.standard, hours * 3600 + minutes * 60⟩

/-- Hours and minutes of universal time. -/
def universal (hours minutes : Nat) : ClockTime := ⟨.universal, hours * 3600 + minutes * 60⟩

/-- The start of a day on the wall. -/
def midnight : ClockTime := wall 0 0

end ClockTime

/-- A moment of a year. -/
structure Moment where
  year : Nat
  month : Nat
  day : MonthDay
  time : ClockTime
deriving DecidableEq

namespace Moment

/-- The seconds from the start of 1970 to the moment, on its own clock. -/
def reading (m : Moment) : Int := m.day.inMonth m.year m.month * 86400 + m.time.seconds

/-- The second of universal time that the moment names, when standard time is `offset` ahead and clocks on the wall
`saving` more. -/
def second (m : Moment) (offset saving : Int) : Int := m.reading - m.time.clock.lead offset saving

end Moment

end SecretRotation
