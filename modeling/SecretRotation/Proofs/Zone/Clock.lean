import SecretRotation.Zone.History

/-!
# Local clocks

The instants at which a local clock shows a time are found by a walk along the changes of its zone. They are exactly those
at which the clock shows it, and they come in order of time.

## Main results

* `Zone.mem_instantsAt`: an instant is found exactly if the clock shows the time there.
* `Zone.pairwise_instantsAt`: the instants found are in order.
-/

namespace SecretRotation.Zone

open OffsetChange

theorem offsetAmong_cons (t offset : Int) (c : OffsetChange) (rest : List OffsetChange) :
    offsetAmong t offset (c :: rest) = if t < c.start then offset else offsetAmong t c.offset rest := rfl

theorem instantsAmong_cons (clock : Int) (since : Option Int) (offset : Int) (c : OffsetChange)
    (rest : List OffsetChange) :
    instantsAmong clock since offset (c :: rest) =
      (if since.all (· ≤ clock - offset) && clock - offset < c.start then [clock - offset] else []) ++
        instantsAmong clock (some c.start) c.offset rest := rfl

/-- In changes in order the first one comes before the one after it. -/
theorem start_lt_of_ascending {c d : OffsetChange} {rest : List OffsetChange} (h : Ascending (c :: rest))
    (hd : d ∈ rest.head?) : c.start < d.start := by
  cases rest with
  | nil => simp at hd
  | cons e rest =>
    obtain rfl : e = d := by simpa using hd
    exact h.1

/-- The walk finds the instants from `since` on at which the clock shows the time. -/
theorem mem_instantsAmong {clock r : Int} {changes : List OffsetChange} :
    ∀ (since : Option Int) (offset : Int), Ascending changes → (∀ s ∈ since, ∀ c ∈ changes.head?, s < c.start) →
      (r ∈ instantsAmong clock since offset changes ↔
        (∀ s ∈ since, s ≤ r) ∧ r + offsetAmong r offset changes = clock) := by
  induction changes with
  | nil =>
    intro since offset _ _
    cases since with
    | none => simp [instantsAmong, offsetAmong]; omega
    | some s => simp [instantsAmong, offsetAmong]; omega
  | cons c rest ih =>
    intro since offset hasc hsince
    have hrest := ih (some c.start) c.offset hasc.tail (by
      intro s hs d hd
      obtain rfl : c.start = s := by simpa using hs
      exact start_lt_of_ascending hasc hd)
    have hbefore : ∀ s ∈ since, s < c.start := fun s hs => hsince s hs c rfl
    rw [instantsAmong_cons, offsetAmong_cons, List.mem_append, hrest]
    by_cases hr : r < c.start
    · -- Before the change only the offset in force until then counts.
      rw [if_pos hr]
      cases since with
      | none => simp; omega
      | some s => simp; omega
    · rw [if_neg hr]
      cases since with
      | none => simp; omega
      | some s =>
        have := hbefore s rfl
        simp
        omega

theorem mem_instantsAt {z : Zone} {clock r : Int} : r ∈ z.instantsAt clock ↔ z.localAt r = clock := by
  rw [instantsAt, mem_instantsAmong none z.initial z.ascending (by simp)]
  simp [localAt, offsetAt]

theorem pairwise_instantsAmong {clock : Int} {changes : List OffsetChange} :
    ∀ {since : Option Int} {offset : Int}, Ascending changes →
      (instantsAmong clock since offset changes).Pairwise (· < ·) := by
  induction changes with
  | nil =>
    intro since offset _
    rw [instantsAmong]
    split <;> simp
  | cons c rest ih =>
    intro since offset hasc
    rw [instantsAmong_cons]
    refine List.pairwise_append.mpr ⟨by split <;> simp, ih hasc.tail, ?_⟩
    intro a ha b hb
    have hb' := (mem_instantsAmong (some c.start) c.offset hasc.tail (fun s hs d hd => by
      obtain rfl : c.start = s := by simpa using hs
      exact start_lt_of_ascending hasc hd)).mp hb
    have := hb'.1 c.start rfl
    split at ha
    · simp_all
      omega
    · simp at ha

theorem pairwise_instantsAt (z : Zone) (clock : Int) : (z.instantsAt clock).Pairwise (· < ·) :=
  pairwise_instantsAmong z.ascending

end SecretRotation.Zone
