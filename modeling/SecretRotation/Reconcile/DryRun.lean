import SecretRotation.Reconcile.Basic

/-!
# Dry runs

A place for cycles that touches nothing outside: the store in memory, a clock that only moves when it is told to, and a
record of all messages.

## Main definitions

* `DryRun`: the state of such a place.
* `DryRun.backend`: the place.
* `DryRun.advance?`: moves the clock.
-/

namespace SecretRotation

/-- A store in memory, a record of messages and a clock. -/
structure DryRun where
  store : Store
  /-- Messages with the objects they were about, in the order in which they were told. -/
  events : List (ObjectKey × Notification)
  now : Instant

namespace DryRun

/-- The empty store at an instant. -/
def start (now : Instant) : DryRun := ⟨.empty, [], now⟩

/-- The place of dry runs. -/
def backend : Backend DryRun where
  get key s := (.ok (s.store.get key), s)
  update o s :=
    let (answer, store) := s.store.update o
    (answer, { s with store })
  publish o message s := { s with events := s.events ++ [(o.key, message)] }
  now s := s.now

/-- Moves the clock forward, by no more than a clock can be moved at once. No clock shows a day beyond the calendar. -/
def advance? (s : DryRun) (span : Duration) : Option DryRun :=
  if Instant.longestStep < span then some s
  else
    let now := s.now.advance span
    if Date.InReach now.day then some { s with now } else none

end DryRun

end SecretRotation
