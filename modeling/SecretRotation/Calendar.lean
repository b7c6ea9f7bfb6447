/-!
# The calendar

Dates of the proleptic Gregorian calendar and the count of days. Day zero is the first of January 1970, a Thursday;
years run on through zero and below, up to the ends of the calendar.

## Main definitions

* `Weekday`: the seven days, and the weekday of a day.
* `Date`: year, month and day of the month, with `Date.Valid`.
* `Date.toDay`, `Date.ofDay`: between dates and the count of days.
* `Date.InReach`: the days that there are.
-/

namespace SecretRotation

/-- The days of the week. -/
inductive Weekday where
  | monday | tuesday | wednesday | thursday | friday | saturday | sunday
deriving DecidableEq

namespace Weekday

/-- The weekday of a day. Weeks repeat every seven days, and day zero is a Thursday. -/
def ofDay (day : Int) : Weekday :=
  match (day % 7).toNat with
  | 0 => thursday
  | 1 => friday
  | 2 => saturday
  | 3 => sunday
  | 4 => monday
  | 5 => tuesday
  | _ => wednesday

/-- The three-letter form. -/
def short : Weekday → String
  | monday => "Mon"
  | tuesday => "Tue"
  | wednesday => "Wed"
  | thursday => "Thu"
  | friday => "Fri"
  | saturday => "Sat"
  | sunday => "Sun"

end Weekday

/-- A date by year, month and day of the month. -/
structure Date where
  year : Int
  month : Nat
  day : Nat
deriving DecidableEq

namespace Date

/-- Every fourth year is a leap year, but of the full centuries only every fourth. -/
def isLeap (year : Int) : Bool :=
  year % 4 == 0 && (year % 100 != 0 || year % 400 == 0)

/-- The lengths of the months from January to December. -/
def monthLengths (leap : Bool) : List Nat :=
  [31, if leap then 29 else 28, 31, 30, 31, 30, 31, 31, 30, 31, 30, 31]

/-- The length of a month, counted from one; months that do not exist have no days. -/
def monthLength (year : Int) (month : Nat) : Nat :=
  if month = 0 then 0 else (monthLengths (isLeap year)).getD (month - 1) 0

/-- The month exists and has the day. -/
def Valid (d : Date) : Prop :=
  1 ≤ d.day ∧ d.day ≤ monthLength d.year d.month

instance (d : Date) : Decidable d.Valid :=
  inferInstanceAs (Decidable (_ ∧ _))

/-- The days from the first of January of year zero to that of a year: 365 a year and one for each leap year
between. -/
def daysBeforeYear (year : Int) : Int :=
  365 * year + (year + 3) / 4 - (year + 99) / 100 + (year + 399) / 400

/-- The day zero of the count, in days after the first of January of year zero. -/
def epoch : Int := 719528

/-- The year that holds a day, counted from the first of January of year zero. The mean length of a year leads to it
or to one of its neighbours. -/
def yearOf (n : Int) : Int :=
  let guess := 400 * n / 146097
  if n < daysBeforeYear guess then guess - 1
  else if daysBeforeYear (guess + 1) ≤ n then guess + 1
  else guess

/-- The number of whole months that fit into some days, and the days left over. -/
def splitMonths : List Nat → Nat → Nat × Nat
  | [], days => (0, days)
  | length :: lengths, days =>
    if days < length then (0, days)
    else
      let (months, rest) := splitMonths lengths (days - length)
      (months + 1, rest)

/-- The number of days in whole months. -/
def daysInMonths : List Nat → Nat
  | [] => 0
  | length :: lengths => length + daysInMonths lengths

/-- The count of days of a date. -/
def toDay (d : Date) : Int :=
  daysBeforeYear d.year + daysInMonths ((monthLengths (isLeap d.year)).take (d.month - 1)) + (d.day - 1) - epoch

/-- The date of a count of days. -/
def ofDay (day : Int) : Date :=
  let n := day + epoch
  let year := yearOf n
  let (months, days) := splitMonths (monthLengths (isLeap year)) (n - daysBeforeYear year).toNat
  ⟨year, months + 1, days + 1⟩

/-- The first day that there is, the first of January of the year -262143. -/
def firstDay : Int := -96465292

/-- The last day that there is, the last of December of the year 262142. -/
def lastDay : Int := 95026236

/-- The calendar ends on either side: dates outside of it cannot be held. -/
def InReach (day : Int) : Prop := firstDay ≤ day ∧ day ≤ lastDay

instance (day : Int) : Decidable (InReach day) := inferInstanceAs (Decidable (_ ∧ _))

theorem firstDay_eq_toDay : firstDay = toDay ⟨-262143, 1, 1⟩ := by decide

theorem lastDay_eq_toDay : lastDay = toDay ⟨262142, 12, 31⟩ := by decide

end Date

end SecretRotation
