/-!
# Durations

Spans of time at the resolution of a nanosecond, never negative.

## Main definitions

* `Duration`: the span, as a count of nanoseconds.
* `Duration.ofParts`, `Duration.seconds`, `Duration.subsecond`: the split into whole seconds and the rest.
-/

namespace SecretRotation

/-- A span of time, counted in nanoseconds. -/
structure Duration where
  nanoseconds : Nat
deriving DecidableEq, Inhabited

namespace Duration

/-- The nanoseconds of one second. -/
def perSecond : Nat := 1000000000

/-- No time at all. -/
def zero : Duration := ⟨0⟩

/-- A span of whole seconds. -/
def ofSeconds (n : Nat) : Duration := ⟨n * perSecond⟩

/-- A span of whole seconds and some nanoseconds. -/
def ofParts (seconds nanos : Nat) : Duration := ⟨seconds * perSecond + nanos⟩

/-- The whole seconds of a span. -/
def seconds (d : Duration) : Nat := d.nanoseconds / perSecond

/-- The nanoseconds that the whole seconds leave over. -/
def subsecond (d : Duration) : Nat := d.nanoseconds % perSecond

instance : LE Duration := ⟨fun a b => a.nanoseconds ≤ b.nanoseconds⟩

instance : LT Duration := ⟨fun a b => a.nanoseconds < b.nanoseconds⟩

instance (a b : Duration) : Decidable (a ≤ b) := inferInstanceAs (Decidable (a.nanoseconds ≤ b.nanoseconds))

instance (a b : Duration) : Decidable (a < b) := inferInstanceAs (Decidable (a.nanoseconds < b.nanoseconds))

instance : Min Duration := ⟨fun a b => if a ≤ b then a else b⟩

instance : Add Duration := ⟨fun a b => ⟨a.nanoseconds + b.nanoseconds⟩⟩

/-- What is left of a span after another one, and no time if the other one is longer. -/
instance : Sub Duration := ⟨fun a b => ⟨a.nanoseconds - b.nanoseconds⟩⟩

theorem le_def {a b : Duration} : a ≤ b ↔ a.nanoseconds ≤ b.nanoseconds := Iff.rfl

theorem lt_def {a b : Duration} : a < b ↔ a.nanoseconds < b.nanoseconds := Iff.rfl

@[simp] theorem nanoseconds_min (a b : Duration) :
    (min a b).nanoseconds = min a.nanoseconds b.nanoseconds := by
  show (if a ≤ b then a else b).nanoseconds = min a.nanoseconds b.nanoseconds
  split <;> rename_i h <;> rw [le_def] at h <;> omega

@[simp] theorem nanoseconds_add (a b : Duration) : (a + b).nanoseconds = a.nanoseconds + b.nanoseconds := rfl

@[simp] theorem nanoseconds_sub (a b : Duration) : (a - b).nanoseconds = a.nanoseconds - b.nanoseconds := rfl

@[simp] theorem nanoseconds_zero : zero.nanoseconds = 0 := rfl

/-- The two parts of a span make it up again. -/
theorem ofParts_seconds_subsecond (d : Duration) : ofParts d.seconds d.subsecond = d := by
  simp only [ofParts, seconds, subsecond, Nat.div_add_mod']

end Duration

end SecretRotation
