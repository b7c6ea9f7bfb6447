/-!
# Results of steps

Steps that may fail follow one another, and what one of them has given the next goes on with.

## Main results

* `exists_of_bind_eq_ok`: steps that succeed together succeed one by one.
* `eq_ok_of_mem_toOption`: a result that is there is the result.
* `exists_of_mem_mapM`: where many steps succeed, each result is that of one of them.
-/

namespace SecretRotation

variable {ε α β : Type} {x : Except ε α} {a : α}

theorem exists_of_bind_eq_ok {f : α → Except ε β} {b : β} (h : (x >>= f) = .ok b) : ∃ a, x = .ok a ∧ f a = .ok b := by
  cases x with
  | error e => cases h
  | ok a => exact ⟨a, rfl, h⟩

theorem eq_ok_of_mem_toOption (h : a ∈ x.toOption) : x = .ok a := by
  cases x with
  | error e => cases h
  | ok b =>
    obtain rfl : b = a := Option.some.inj h
    rfl

theorem mapError_eq_ok_iff {ε' : Type} {f : ε → ε'} : x.mapError f = .ok a ↔ x = .ok a := by
  cases x with
  | error e => constructor <;> intro h <;> cases h
  | ok b => constructor <;> intro h <;> cases h <;> rfl

/-- Each of several results comes from one of the things that they were made of. -/
theorem exists_of_mem_mapM {f : α → Except ε β} {l : List α} {results : List β} {b : β} (h : l.mapM f = .ok results)
    (hb : b ∈ results) : ∃ a ∈ l, f a = .ok b := by
  induction l generalizing results with
  | nil =>
    cases h
    cases hb
  | cons a l ih =>
    rw [List.mapM_cons] at h
    obtain ⟨first, hfirst, h⟩ := exists_of_bind_eq_ok h
    obtain ⟨rest, hrest, h⟩ := exists_of_bind_eq_ok h
    cases h
    rcases List.mem_cons.mp hb with rfl | hb
    · exact ⟨a, List.mem_cons_self, hfirst⟩
    · obtain ⟨a', ha', hb'⟩ := ih hrest hb
      exact ⟨a', List.mem_cons_of_mem a ha', hb'⟩

/-- What goes on after a step that gives a result. -/
theorem bind_of_eq_some {x : Option α} {f : α → Option β} (h : x = some a) : (x >>= f) = f a := by
  rw [h]
  rfl

end SecretRotation
