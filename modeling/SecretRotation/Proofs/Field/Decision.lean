import SecretRotation.Field.Decision

/-!
# Deferred fields

Only a field that is to be put off asks the gate for how long. All other decisions stand on their own, so that they are had
wherever the clock is.

## Main results

* `Decision.eq_wait_of_make_eq_defer`: a field that is put off waits for the gate.
* `Decision.tryMake_eq_none_iff`: when there is no decision.
-/

namespace SecretRotation.Decision

variable {state : FieldState} {minimum : Duration} {g : Gate} {t : Instant} {d : Decision}

/-- A rotation that is put off waits for the gate, which is shut. -/
theorem eq_wait_of_make_eq_defer {wait : Duration} (h : make state minimum g t = .defer wait) :
    ¬ g.Open t ∧ wait = g.wait t := by
  obtain ⟨hasValue, interval, baseline⟩ := state
  cases hasValue with
  | false => cases h
  | true =>
    cases interval with
    | none => cases h
    | some interval =>
      simp only [make, if_true] at h
      split at h
      · cases h
      · cases baseline with
        | none => cases h
        | some baseline =>
          simp only [ofAge] at h
          split at h
          · cases h
          · split at h
            · cases h
            · rename_i hshut
              cases h
              exact ⟨hshut, rfl⟩

/-- There is no decision exactly where a field is to be put off and the search for the next opening breaks down. -/
theorem tryMake_cases (state : FieldState) (minimum : Duration) (g : Gate) (t : Instant) :
    ((∃ wait, make state minimum g t = .defer wait) ∧ g.SearchBreaks t) ∧ tryMake state minimum g t = none ∨
      ¬ ((∃ wait, make state minimum g t = .defer wait) ∧ g.SearchBreaks t) ∧
        tryMake state minimum g t = some (make state minimum g t) := by
  rw [tryMake]
  cases hmake : make state minimum g t with
  | defer wait =>
    obtain ⟨hshut, rfl⟩ := eq_wait_of_make_eq_defer hmake
    by_cases hbreaks : g.SearchBreaks t
    · exact .inl ⟨⟨⟨_, rfl⟩, hbreaks⟩, by rw [Gate.tryWait, if_pos ⟨hshut, hbreaks⟩, Option.map_none]⟩
    · exact .inr ⟨fun h => hbreaks h.2, by rw [Gate.tryWait, if_neg fun h => hbreaks h.2, Option.map_some]⟩
  | generate => exact .inr ⟨by simp, rfl⟩
  | rotate => exact .inr ⟨by simp, rfl⟩
  | skip nextDue => exact .inr ⟨by simp, rfl⟩
  | belowMinimum interval minimum => exact .inr ⟨by simp, rfl⟩

theorem tryMake_eq_none_iff :
    tryMake state minimum g t = none ↔ (∃ wait, make state minimum g t = .defer wait) ∧ g.SearchBreaks t := by
  rcases tryMake_cases state minimum g t with ⟨hstranded, hnone⟩ | ⟨hnot, hsome⟩
  · exact ⟨fun _ => hstranded, fun _ => hnone⟩
  · rw [hsome]
    exact ⟨nofun, fun h => absurd h hnot⟩

/-- A decision that is had is the one that is made. -/
theorem tryMake_eq_some_iff : tryMake state minimum g t = some d ↔
    make state minimum g t = d ∧ ((∃ wait, d = .defer wait) → ¬ g.SearchBreaks t) := by
  rcases tryMake_cases state minimum g t with ⟨⟨⟨wait, hwait⟩, hbreaks⟩, hnone⟩ | ⟨hnot, hsome⟩
  · rw [hnone]
    exact ⟨nofun, fun ⟨hmake, h⟩ => absurd hbreaks (h ⟨wait, hmake.symm.trans hwait⟩)⟩
  · rw [hsome, Option.some.injEq]
    exact ⟨fun h => ⟨h, fun hdefer hbreaks => hnot ⟨h ▸ hdefer, hbreaks⟩⟩, And.left⟩

end SecretRotation.Decision
