import SecretRotation.Proofs.Result
import SecretRotation.Proofs.Zone.Bounds
import SecretRotation.Window.Gate

/-!
# Accepted windows

A window that was read from a description has a zone of the zone table. Nothing else of the description matters for
when it opens.

## Main definitions

* `Window.Accepted`: the window of some description.

## Main results

* `WindowText.find?_of_build`: the zone of a window is the one that its description names.
* `Window.Accepted.bounded`: its clocks are always less than a day from universal time.
* `GateText.accepted_of_build`: the gate of a description has no other windows than such.
-/

namespace SecretRotation

/-- The window is what some description stands for. -/
def Window.Accepted (w : Window) : Prop := ∃ text : WindowText, text.build = .ok w

namespace WindowText

theorem find?_of_readZone {text : String} {z : Zone} (h : readZone text = .ok z) :
    Zone.find? (Text.trimmed text) = some z := by
  rw [readZone] at h
  by_cases hblank : Text.allBlank text
  · rw [if_pos hblank] at h
    cases h
  · rw [if_neg hblank] at h
    cases hfind : Zone.find? (Text.trimmed text) with
    | none =>
      rw [hfind] at h
      cases h
    | some zone =>
      rw [hfind] at h
      cases h
      rfl

theorem find?_of_build {text : WindowText} {w : Window} (h : text.build = .ok w) :
    Zone.find? (Text.trimmed text.zone) = some w.zone := by
  rw [build] at h
  by_cases hdays : text.days = []
  · rw [if_pos hdays] at h
    cases h
  rw [if_neg hdays] at h
  obtain ⟨-, -, h⟩ := exists_of_bind_eq_ok h
  obtain ⟨days, -, h⟩ := exists_of_bind_eq_ok h
  obtain ⟨start, -, h⟩ := exists_of_bind_eq_ok h
  obtain ⟨stop, -, h⟩ := exists_of_bind_eq_ok h
  by_cases hlt : start.minutes < stop.minutes
  · rw [dif_pos hlt] at h
    obtain ⟨zone, hzone, h⟩ := exists_of_bind_eq_ok h
    by_cases hne : days ≠ []
    · rw [dif_pos hne] at h
      cases h
      exact find?_of_readZone hzone
    · rw [dif_neg hne] at h
      cases h
  · rw [dif_neg hlt] at h
    cases h

end WindowText

theorem Window.Accepted.bounded {w : Window} (h : w.Accepted) : w.zone.Bounded := by
  obtain ⟨text, h⟩ := h
  exact Zone.bounded_of_find? (WindowText.find?_of_build h)

/-- The windows of a gate that was read from a description were read from descriptions, too. -/
theorem GateText.accepted_of_build {text : GateText} {g : Gate} (h : text.build = .ok g) :
    ∀ w ∈ g.windows, w.Accepted := by
  intro w hw
  rw [build] at h
  split at h
  · obtain ⟨windows, hwindows, h⟩ := exists_of_bind_eq_ok h
    rw [Gate.ofWindows] at h
    split at h
    · cases h
      obtain ⟨⟨described, index⟩, -, hbuild⟩ := exists_of_mem_mapM hwindows hw
      exact ⟨described, mapError_eq_ok_iff.mp hbuild⟩
    · cases h
  · cases h
    cases hw

end SecretRotation
