import SecretRotation.Duration.Basic

/-!
# Waking up

Each field may ask to be looked at again after some time. The earliest of these times is when all of them are.

## Main definitions

* `Wake.observe`: the earlier of two times, either of which may be missing.
* `Wake.earliest`: the earliest of many.
-/

namespace SecretRotation.Wake

/-- The earlier of two times. A missing time is never the earlier one. -/
def observe : Option Duration → Option Duration → Option Duration
  | some next, some candidate => some (min next candidate)
  | some next, none => some next
  | none, candidate => candidate

/-- The earliest of several times, if there is one at all. -/
def earliest (candidates : List (Option Duration)) : Option Duration :=
  candidates.foldl observe none

end SecretRotation.Wake
