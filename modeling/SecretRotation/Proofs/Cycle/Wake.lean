import SecretRotation.Cycle.Wake

/-!
# The earliest wake-up

The wake-up of a cycle is one that some field asks for, and none asks for an earlier one. It depends only on what is asked
for, and not on the order.

## Main definitions

* `Wake.IsEarliest`: a time is the earliest of several, or there is none at all.

## Main results

* `Wake.isEarliest_earliest`: the wake-up is the earliest of those asked for.
* `Wake.IsEarliest.unique`: there is only one.
-/

namespace SecretRotation.Wake

variable {candidates candidates' : List (Option Duration)} {d : Duration} {result result' : Option Duration}

/-- The time is the earliest of several. It is missing if all of them are. -/
structure IsEarliest (candidates : List (Option Duration)) (result : Option Duration) : Prop where
  mem : ∀ d, result = some d → some d ∈ candidates
  le : ∀ d, some d ∈ candidates → ∃ r, result = some r ∧ r ≤ d

theorem exists_observe_le_left (candidate : Option Duration) : ∃ r, observe (some d) candidate = some r ∧ r ≤ d := by
  cases candidate with
  | none => exact ⟨d, rfl, Nat.le_refl _⟩
  | some c =>
    refine ⟨min d c, rfl, ?_⟩
    rw [Duration.le_def, Duration.nanoseconds_min]
    exact Nat.min_le_left _ _

theorem exists_observe_le_right (next : Option Duration) : ∃ r, observe next (some d) = some r ∧ r ≤ d := by
  cases next with
  | none => exact ⟨d, rfl, Nat.le_refl _⟩
  | some n =>
    refine ⟨min n d, rfl, ?_⟩
    rw [Duration.le_def, Duration.nanoseconds_min]
    exact Nat.min_le_right _ _

theorem exists_foldl_le (candidates : List (Option Duration)) :
    ∀ {d}, ∃ r, candidates.foldl observe (some d) = some r ∧ r ≤ d := by
  induction candidates with
  | nil => exact fun {d} => ⟨d, rfl, Nat.le_refl _⟩
  | cons candidate rest ih =>
    intro d
    obtain ⟨r, hr, hle⟩ := exists_observe_le_left (d := d) candidate
    obtain ⟨r', hr', hle'⟩ := ih (d := r)
    exact ⟨r', by rw [List.foldl_cons, hr, hr'], Nat.le_trans hle' hle⟩

theorem earliest_le (h : some d ∈ candidates) : ∃ r, earliest candidates = some r ∧ r ≤ d := by
  obtain ⟨before, after, rfl⟩ := List.append_of_mem h
  -- From its turn on the result is not later than the candidate, and what follows can only lower it.
  obtain ⟨r, hr, hle⟩ := exists_observe_le_right (d := d) (before.foldl observe none)
  obtain ⟨r', hr', hle'⟩ := exists_foldl_le after (d := r)
  exact ⟨r', by rw [earliest, List.foldl_append, List.foldl_cons, hr, hr'], Nat.le_trans hle' hle⟩

theorem observe_eq_or (next candidate : Option Duration) :
    observe next candidate = next ∨ observe next candidate = candidate := by
  cases next with
  | none => exact .inr rfl
  | some n =>
    cases candidate with
    | none => exact .inl rfl
    | some c =>
      by_cases hle : n ≤ c
      · exact .inl (congrArg some (if_pos hle))
      · exact .inr (congrArg some (if_neg hle))

theorem foldl_observe_eq_or_mem (candidates : List (Option Duration)) (next : Option Duration) :
    candidates.foldl observe next = next ∨ candidates.foldl observe next ∈ candidates := by
  induction candidates generalizing next with
  | nil => exact .inl rfl
  | cons candidate rest ih =>
    rw [List.foldl_cons]
    rcases ih (observe next candidate) with hsame | hmem
    · rw [hsame]
      rcases observe_eq_or next candidate with hnext | hcandidate
      · exact .inl hnext
      · exact .inr (by simp [hcandidate])
    · exact .inr (List.mem_cons_of_mem _ hmem)

theorem isEarliest_earliest (candidates : List (Option Duration)) : IsEarliest candidates (earliest candidates) := by
  refine ⟨fun d hd => ?_, fun d hd => earliest_le hd⟩
  rcases foldl_observe_eq_or_mem candidates none with hnone | hmem
  · rw [earliest, hnone] at hd
    cases hd
  · rw [← hd]
    exact hmem

/-- Of the same times there is only one earliest. -/
theorem IsEarliest.unique (h : IsEarliest candidates result) (h' : IsEarliest candidates' result')
    (hsame : ∀ d, some d ∈ candidates ↔ some d ∈ candidates') : result = result' := by
  cases hresult : result with
  | none =>
    cases hresult' : result' with
    | none => rfl
    | some r' =>
      obtain ⟨r, hr, -⟩ := h.le r' ((hsame r').mpr (h'.mem r' hresult'))
      rw [hresult] at hr
      cases hr
  | some r =>
    obtain ⟨r', hr', hle⟩ := h'.le r ((hsame r).mp (h.mem r hresult))
    obtain ⟨r'', hr'', hle'⟩ := h.le r' ((hsame r').mpr (h'.mem r' hr'))
    rw [hresult] at hr''
    obtain rfl := Option.some.inj hr''
    rw [hr', Option.some.injEq]
    exact congrArg Duration.mk (Nat.le_antisymm hle' hle)

end SecretRotation.Wake
