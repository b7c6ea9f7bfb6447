import SecretRotation.Calendar
import SecretRotation.Duration.Basic

/-!
# Instants

Points on the universal time line. An instant is a count of seconds since day zero and the nanoseconds within that
second. A clock that shows second sixty is in a leap second: it is held as second fifty-nine with more than a whole
second of nanoseconds, so that the count of seconds stays that of a line without leap seconds.

## Main definitions

* `Instant`: the point, with `Instant.Ordinary` for those outside leap seconds.
* `Instant.since`: the signed distance of two instants, in nanoseconds.
* `Instant.elapsed`: the time passed since an earlier instant, none if it is not earlier.
* `Instant.advance`: a later instant.
-/

namespace SecretRotation

/-- A point in time: seconds since the start of 1970 and nanoseconds within the second, which reach into a second
whole second only during a leap second. -/
structure Instant where
  seconds : Int
  nanos : Nat
  nanos_lt : nanos < 2000000000
deriving DecidableEq

namespace Instant

/-- The seconds of a day. -/
def perDay : Nat := 86400

/-- The instant at the start of a second. -/
def ofSeconds (seconds : Int) : Instant := ⟨seconds, 0, by decide⟩

instance : Inhabited Instant := ⟨ofSeconds 0⟩

/-- The clock reads an ordinary second and not a leap second. -/
def Ordinary (t : Instant) : Prop := t.nanos < Duration.perSecond

instance (t : Instant) : Decidable t.Ordinary := inferInstanceAs (Decidable (_ < _))

/-- The clock reads second sixty. -/
def inLeapSecond (t : Instant) : Bool := Duration.perSecond ≤ t.nanos

/-- Instants are ordered by second and then by nanosecond. -/
def Before (a b : Instant) : Prop := a.seconds < b.seconds ∨ a.seconds = b.seconds ∧ a.nanos < b.nanos

instance : LT Instant := ⟨Before⟩

instance : LE Instant := ⟨fun a b => a.seconds < b.seconds ∨ a.seconds = b.seconds ∧ a.nanos ≤ b.nanos⟩

instance (a b : Instant) : Decidable (a < b) := inferInstanceAs (Decidable (_ ∨ _))

instance (a b : Instant) : Decidable (a ≤ b) := inferInstanceAs (Decidable (_ ∨ _))

/-- The day, in universal time. -/
def day (t : Instant) : Int := t.seconds / perDay

/-- The second of the day, from zero to 86399. -/
def secondOfDay (t : Instant) : Int := t.seconds % perDay

/-- The whole seconds that a leap second adds to the distance from `b` to `a`: one if `b` is in a leap second and the
clock reads later at `a`, minus one the other way round. -/
def leapCorrection (a b : Instant) : Int :=
  if b.inLeapSecond && b.secondOfDay < a.secondOfDay then 1
  else if a.inLeapSecond && a.secondOfDay < b.secondOfDay then -1
  else 0

/-- The signed distance from `b` to `a` in nanoseconds. -/
def since (a b : Instant) : Int :=
  (a.seconds - b.seconds + leapCorrection a b) * Duration.perSecond + (a.nanos - b.nanos)

/-- The time passed from `b` to `a`, and no time if `a` is not later. -/
def elapsed (a b : Instant) : Duration := ⟨(a.since b).toNat⟩

/-- The largest span by which a clock can be moved at once: `2^63 - 1` milliseconds. -/
def longestStep : Duration := ⟨9223372036854775807 * 1000000⟩

/-- The instant a span later. Within a leap second the reading stays there until the span leads out of it; the leap
second then counts like the ordinary second before it. -/
def advance (t : Instant) (by_ : Duration) : Instant :=
  if _h : t.inLeapSecond ∧ by_.seconds = 0 ∧ t.nanos + by_.subsecond < 2 * Duration.perSecond then
    ⟨t.seconds, t.nanos + by_.subsecond, by simp only [Duration.perSecond] at _h; omega⟩
  else
    let nanos := t.nanos % Duration.perSecond + by_.subsecond
    ⟨t.seconds + by_.seconds + (nanos / Duration.perSecond : Nat), nanos % Duration.perSecond,
      Nat.lt_trans (Nat.mod_lt _ (by decide)) (by decide)⟩

theorem lt_def {a b : Instant} :
    a < b ↔ a.seconds < b.seconds ∨ a.seconds = b.seconds ∧ a.nanos < b.nanos := Iff.rfl

theorem le_def {a b : Instant} :
    a ≤ b ↔ a.seconds < b.seconds ∨ a.seconds = b.seconds ∧ a.nanos ≤ b.nanos := Iff.rfl

/-- Outside leap seconds the distance is that of the two counts of nanoseconds. -/
theorem since_eq_of_ordinary {a b : Instant} (ha : a.Ordinary) (hb : b.Ordinary) :
    a.since b = (a.seconds * Duration.perSecond + a.nanos) - (b.seconds * Duration.perSecond + b.nanos) := by
  have ha' : a.inLeapSecond = false := by simpa [inLeapSecond, Ordinary] using ha
  have hb' : b.inLeapSecond = false := by simpa [inLeapSecond, Ordinary] using hb
  simp only [since, leapCorrection, ha', hb', Bool.false_and, Bool.false_eq_true, if_false]
  simp only [Duration.perSecond]
  omega

end Instant

end SecretRotation
