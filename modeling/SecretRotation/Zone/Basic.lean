/-!
# Time zones

A zone says by how much local clocks are ahead of universal time, second by second. Its offset is constant between
changes. Where a change moves clocks forward some local times never occur, where it moves them back some occur twice.

## Main definitions

* `Zone`: a first offset and the changes after it, in order of time.
* `Zone.offsetAt`, `Zone.localAt`: the offset in force at an instant and the local clock there.
* `Zone.instantsAt`: all instants at which the local clock shows a given time.
-/

namespace SecretRotation

/-- From `start` on, in seconds of universal time, local clocks are `offset` seconds ahead. -/
structure OffsetChange where
  start : Int
  offset : Int
deriving DecidableEq

/-- Each change is later than the one before it. -/
def OffsetChange.Ascending : List OffsetChange → Prop
  | [] => True
  | [_] => True
  | a :: b :: rest => a.start < b.start ∧ Ascending (b :: rest)

/-- Ascending order is checked change by change. -/
def OffsetChange.decideAscending : (changes : List OffsetChange) → Decidable (Ascending changes)
  | [] => .isTrue trivial
  | [_] => .isTrue trivial
  | a :: b :: rest =>
    have := decideAscending (b :: rest)
    inferInstanceAs (Decidable (a.start < b.start ∧ Ascending (b :: rest)))

instance (changes : List OffsetChange) : Decidable (OffsetChange.Ascending changes) :=
  OffsetChange.decideAscending changes

/-- A time zone, known by its name. -/
structure Zone where
  name : String
  /-- The offset before the first change. -/
  initial : Int
  /-- The changes in order of time. -/
  changes : List OffsetChange
  ascending : OffsetChange.Ascending changes := by decide +kernel
deriving DecidableEq

namespace Zone

/-- A zone whose clocks never change. -/
def fixed (name : String) (offset : Int) : Zone := ⟨name, offset, [], trivial⟩

/-- The offset in force at `t` when `offset` holds before the changes. -/
def offsetAmong (t offset : Int) : List OffsetChange → Int
  | [] => offset
  | c :: rest => if t < c.start then offset else offsetAmong t c.offset rest

/-- The offset in force at a second of universal time. -/
def offsetAt (z : Zone) (t : Int) : Int := offsetAmong t z.initial z.changes

/-- What local clocks show at a second of universal time, as seconds since the start of 1970 on those clocks. -/
def localAt (z : Zone) (t : Int) : Int := t + z.offsetAt t

/-- The seconds of universal time from `since` on at which local clocks show `clock`, when `offset` holds before the
changes. A stretch of constant offset has at most one. -/
def instantsAmong (clock : Int) (since : Option Int) (offset : Int) : List OffsetChange → List Int
  | [] => if since.all (· ≤ clock - offset) then [clock - offset] else []
  | c :: rest =>
    let here := if since.all (· ≤ clock - offset) && clock - offset < c.start then [clock - offset] else []
    here ++ instantsAmong clock (some c.start) c.offset rest

/-- The seconds of universal time at which local clocks show `clock`, in order: none within a gap, two within a
repeated stretch, one else. -/
def instantsAt (z : Zone) (clock : Int) : List Int := instantsAmong clock none z.initial z.changes

/-- One offset is in force from `first` through `last`. -/
def ConstantOn (z : Zone) (first last : Int) : Prop :=
  ∀ t, first ≤ t → t ≤ last → z.offsetAt t = z.offsetAt first

end Zone

end SecretRotation
