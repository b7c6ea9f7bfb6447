import SecretRotation.Zone.Moment

/-!
# Saving rules

In summer many clocks are ahead of standard time, mostly by one hour. A rule puts them forward or back at one moment of each
year for which it holds; the rules of a place, taken together, give its switches in order of time.

## Main definitions

* `SavingRule`: a switch that comes back every year for some years.
* `SavingSwitch`: a switch of one year.
* `SavingRule.switches`: the switches of some rules, year by year.
-/

namespace SecretRotation

/-- The last year for which switches are known. Whatever holds at its end holds for good. -/
def lastSwitchYear : Nat := 2099

/-- From the first through the last year, clocks on the wall go at one moment of each year to some minutes ahead of standard
time. -/
structure SavingRule where
  first : Nat
  last : Nat
  month : Nat
  day : MonthDay
  time : ClockTime
  saving : Nat
deriving DecidableEq

/-- At a moment, clocks on the wall go to some seconds ahead of standard time. -/
structure SavingSwitch where
  moment : Moment
  saving : Int
deriving DecidableEq

/-- Puts a switch before those that have a later reading. -/
def SavingSwitch.insert (s : SavingSwitch) : List SavingSwitch → List SavingSwitch
  | [] => [s]
  | t :: rest => if s.moment.reading ≤ t.moment.reading then s :: t :: rest else t :: insert s rest

namespace SavingRule

/-- The rule holds for a year. -/
def holdsIn (year : Nat) (r : SavingRule) : Bool := r.first ≤ year && year ≤ r.last

/-- The switch of a year. -/
def switchIn (year : Nat) (r : SavingRule) : SavingSwitch := ⟨⟨year, r.month, r.day, r.time⟩, r.saving * 60⟩

/-- The switches of a year in order of date and time. -/
def switchesIn (rules : List SavingRule) (year : Nat) : List SavingSwitch :=
  ((rules.filter (holdsIn year)).map (switchIn year)).foldr SavingSwitch.insert []

/-- The first year of some rules. -/
def firstYear (rules : List SavingRule) : Nat := rules.foldl (fun year r => min year r.first) lastSwitchYear

/-- The switches of all years. -/
def switches (rules : List SavingRule) : List SavingSwitch :=
  let first := firstYear rules
  (List.range' first (lastSwitchYear + 1 - first)).flatMap (switchesIn rules)

end SavingRule

end SecretRotation
