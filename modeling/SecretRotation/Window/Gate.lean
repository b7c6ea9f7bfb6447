import SecretRotation.Window.Opening
import SecretRotation.Window.Reader

/-!
# The gate

The gate admits rotations. While it is not in force it is always open; else it is open within any of its windows. To know
when it opens all its windows are searched, so that the search breaks down if that of any window does.

## Main definitions

* `Gate`: the windows, and whether they are in force.
* `Gate.Open`, `Gate.active?`: the gate admits rotations at an instant, and the window that admits them.
* `Gate.nextOpening?`, `Gate.wait`: the earliest opening, and the time until then.
* `Gate.SearchBreaks`, `Gate.WaitBreaks`: they cannot be had; `Gate.tryWait` has no answer there.
* `GateText.build`: the gate of written windows.
-/

namespace SecretRotation

/-- Maintenance windows and whether they are in force. -/
structure Gate where
  enabled : Bool
  windows : List Window
  windows_ne_nil : enabled = true → windows ≠ []
deriving DecidableEq

namespace Gate

/-- The gate that is always open. -/
def disabled : Gate := ⟨false, [], by simp⟩

instance : Inhabited Gate := ⟨disabled⟩

/-- A gate of windows. In force it needs at least one of them. -/
def ofWindows (enabled : Bool) (windows : List Window) : Except WindowError Gate :=
  if h : enabled = true → windows ≠ [] then .ok ⟨enabled, windows, h⟩ else .error .noWindows

/-- The gate admits rotations. -/
def Open (g : Gate) (t : Instant) : Prop :=
  g.enabled = true → ∃ w ∈ g.windows, w.Contains t

instance (g : Gate) (t : Instant) : Decidable (g.Open t) :=
  inferInstanceAs (Decidable (_ → _))

/-- The first window, in the order of the list, that admits rotations. -/
def active? (g : Gate) (t : Instant) : Option Window :=
  if g.enabled then g.windows.find? fun w => w.Contains t else none

/-- The earliest opening of all windows, as a second of universal time. -/
def nextOpening? (g : Gate) (t : Instant) : Option Int :=
  if g.enabled then (g.windows.filterMap fun w => w.nextOpening? t).min? else none

/-- The time until the gate opens: none while it is open, and none if no opening is known. -/
def wait (g : Gate) (t : Instant) : Duration :=
  if g.Open t then .zero
  else
    match g.nextOpening? t with
    | some s => (Instant.ofSeconds s).elapsed t
    | none => .zero

/-- The search for the next opening breaks down. -/
def SearchBreaks (g : Gate) (t : Instant) : Prop := g.enabled = true ∧ ∃ w ∈ g.windows, w.SearchBreaks t

instance (g : Gate) (t : Instant) : Decidable (g.SearchBreaks t) := inferInstanceAs (Decidable (_ ∧ _))

/-- The wait cannot be had: the gate is shut, and the search for its next opening breaks down. -/
def WaitBreaks (g : Gate) (t : Instant) : Prop := ¬ g.Open t ∧ g.SearchBreaks t

instance (g : Gate) (t : Instant) : Decidable (g.WaitBreaks t) := inferInstanceAs (Decidable (_ ∧ _))

/-- The time until the gate opens, unless it cannot be had. -/
def tryWait (g : Gate) (t : Instant) : Option Duration :=
  if g.WaitBreaks t then none else some (g.wait t)

end Gate

/-- Windows as they were written, and whether they are to be in force. -/
structure GateText where
  enabled : Bool
  windows : List WindowText
deriving DecidableEq, Inhabited

namespace GateText

/-- The window at a place of the list, with its faults ascribed to it. -/
def buildAt (w : WindowText) (index : Nat) : Except WindowError Window :=
  w.build.mapError (.inWindow (.of w.name index))

/-- The gate of a description. Windows that are not to be in force are not looked at. -/
def build (g : GateText) : Except WindowError Gate :=
  if g.enabled then do
    let windows ← g.windows.zipIdx.mapM fun (w, index) => buildAt w index
    Gate.ofWindows true windows
  else .ok .disabled

end GateText

end SecretRotation
