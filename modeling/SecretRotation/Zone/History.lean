import SecretRotation.Zone.Basic
import SecretRotation.Zone.Saving

/-!
# Histories of zones

The clocks of a place have had one standard time after another, each with its own rules for the summer. Such a history is a
row of eras, every one but the last up to some moment on the clocks of that era. From it follow the offsets of the zone, second
by second.

## Main definitions

* `Saving`, `Era`, `History`: what clocks on the wall add to standard time, a stretch of one standard time, and all of them.
* `History.changes`: the changes of offset that follow.
* `OffsetChange.settle`: what is left when changes within a repeated stretch count as one.
* `History.zone`: the zone of a history.
-/

namespace SecretRotation

/-- What clocks on the wall add to standard time. -/
inductive Saving where
  /-- Nothing. -/
  | off
  /-- Some minutes all the time. -/
  | on (minutes : Nat)
  /-- What the last switch says, and nothing before the first. -/
  | rules (yearly : List SavingRule)
deriving DecidableEq

namespace Saving

/-- The seconds that are added before any switch. -/
def before : Saving → Int
  | off => 0
  | on minutes => minutes * 60
  | rules _ => 0

/-- The switches in order of time. -/
def switches : Saving → List SavingSwitch
  | off => []
  | on _ => []
  | rules yearly => SavingRule.switches yearly

end Saving

/-- A stretch of time during which standard time stays some seconds ahead of universal time. -/
structure Era where
  offset : Int
  saving : Saving
deriving DecidableEq

/-- An era with standard time ahead of universal time. -/
def Era.ahead (hours minutes seconds : Nat) (saving : Saving) : Era :=
  ⟨(hours * 3600 + minutes * 60 + seconds : Nat), saving⟩

/-- An era with standard time behind universal time. -/
def Era.behind (hours minutes seconds : Nat) (saving : Saving) : Era :=
  ⟨-(hours * 3600 + minutes * 60 + seconds : Nat), saving⟩

/-- Eras one after the other. -/
inductive History where
  /-- The last era never ends. -/
  | forever (era : Era)
  /-- An era that ends at a moment, on its own clocks, and what comes after it. -/
  | until (era : Era) (stop : Moment) (rest : History)
deriving DecidableEq

namespace Era

/-- The offsets from a switch on, for the switches that come before the era stops. -/
def follow (offset : Int) (stop : Option Moment) (saving : Int) : List SavingSwitch → List OffsetChange
  | [] => []
  | s :: rest =>
    let start := s.moment.second offset saving
    if stop.any (fun m => m.second offset saving ≤ start) then []
    else ⟨start, offset + s.saving⟩ :: follow offset stop s.saving rest

/-- The offset before any switch. -/
def initial (e : Era) : Int := e.offset + e.saving.before

/-- The changes of offset by the switches of the era, as if it had no beginning. -/
def switched (e : Era) (stop : Option Moment) : List OffsetChange :=
  follow e.offset stop e.saving.before e.saving.switches

/-- The second at which the era stops. It depends on the offset that the last change leaves in force. -/
def stopSecond (e : Era) (stop : Moment) : Int :=
  let final := ((e.switched (some stop)).getLast?.map OffsetChange.offset).getD e.initial
  stop.second e.offset (final - e.offset)

/-- The changes from `since` on, when `offset` holds before all of them. The first one brings the offset in force at
`since`. -/
def enter (since offset : Int) : List OffsetChange → List OffsetChange
  | [] => [⟨since, offset⟩]
  | c :: rest => if c.start ≤ since then enter since c.offset rest else ⟨since, offset⟩ :: c :: rest

end Era

namespace History

/-- The changes of offset from the second on at which the first era begins. -/
def changesSince (since : Int) : History → List OffsetChange
  | forever era => Era.enter since era.initial (era.switched none)
  | .until era stop rest =>
    Era.enter since era.initial (era.switched (some stop)) ++ changesSince (era.stopSecond stop) rest

/-- The offset before all changes. -/
def initial : History → Int
  | forever era => era.initial
  | .until era _ _ => era.initial

/-- The changes of offset. The first era has no beginning. -/
def changes : History → List OffsetChange
  | forever era => era.switched none
  | .until era stop rest => era.switched (some stop) ++ changesSince (era.stopSecond stop) rest

end History

namespace OffsetChange

/-- Leaves out what is no change. Clocks that went back repeat a stretch of time; when they are changed again before they are
through with it, both changes are one, at the time of the first. -/
def settle (before : Int) (c : OffsetChange) : List OffsetChange → List OffsetChange
  | [] => if c.offset = before then [] else [c]
  | d :: rest =>
    if d.start ≤ c.start + max 0 (before - c.offset) then settle before ⟨c.start, d.offset⟩ rest
    else if c.offset = before then settle before d rest
    else c :: settle c.offset d rest

/-- What is left begins no earlier than the first change. -/
theorem ascending_cons_settle (changes : List OffsetChange) :
    ∀ (a c : OffsetChange) (before : Int), a.start < c.start → Ascending (a :: settle before c changes) := by
  induction changes with
  | nil =>
    intro a c before h
    rw [settle]
    split
    · trivial
    · exact ⟨h, trivial⟩
  | cons d rest ih =>
    intro a c before h
    rw [settle]
    split
    · exact ih a ⟨c.start, d.offset⟩ before h
    · have hd : c.start < d.start := by omega
      split
      · exact ih a d before (by omega)
      · exact ⟨h, ih c d c.offset hd⟩

/-- The later part of changes in order is in order. -/
theorem Ascending.tail {a : OffsetChange} {changes : List OffsetChange} (h : Ascending (a :: changes)) :
    Ascending changes := by
  cases changes with
  | nil => trivial
  | cons b rest => exact h.2

/-- Changes settled one by one, from the first on. -/
def settled (before : Int) : List OffsetChange → List OffsetChange
  | [] => []
  | c :: rest => settle before c rest

theorem ascending_settled (before : Int) (changes : List OffsetChange) : Ascending (settled before changes) := by
  cases changes with
  | nil => trivial
  | cons c rest => exact (ascending_cons_settle rest ⟨c.start - 1, 0⟩ c before (by show c.start - 1 < c.start; omega)).tail

end OffsetChange

/-- The zone of a history, known by a name. -/
def History.zone (name : String) (h : History) : Zone :=
  { name, initial := h.initial,
    changes := OffsetChange.settled h.initial h.changes,
    ascending := OffsetChange.ascending_settled h.initial h.changes }

end SecretRotation
