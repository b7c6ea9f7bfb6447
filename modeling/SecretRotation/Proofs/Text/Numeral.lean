import Mathlib.Algebra.Group.Nat.Defs
import SecretRotation.Text.Numeral

/-!
# Reading numerals back

The digits of a number are read back as the number, with or without zeros in front.

## Main results

* `Text.length_padded`: a number that fits into a width fills it exactly.
* `Text.natural?_padded`: filled up digits are read back.
* `Text.decimal_append_inj`: a numeral ends where its digits end.
* `Text.lt_of_natural?`: the value of some digits is less than the power of ten with as many zeros.
-/

namespace SecretRotation.Text

variable {width n : Nat}

theorem isDigit_of_mem_decimal {c : Char} (h : c ∈ decimal n) : c.isDigit = true :=
  Nat.isDigit_of_mem_toDigits (by decide) (by decide) h

/-- The digits in front of a text without any are its first ones. -/
theorem takeWhile_decimal_append {rest : List Char} (h : ∀ c ∈ rest.head?, c.isDigit = false) :
    (decimal n ++ rest).takeWhile Char.isDigit = decimal n := by
  have hrest : rest.takeWhile Char.isDigit = [] := by
    cases rest with
    | nil => rfl
    | cons c rest => exact List.takeWhile_cons_of_neg (by simp [h c rfl])
  rw [List.takeWhile_append_of_pos fun c hc => isDigit_of_mem_decimal hc, hrest, List.append_nil]

/-- A numeral ends where its digits end, and is that of one number. -/
theorem decimal_append_inj {m : Nat} {rest rest' : List Char} (hrest : ∀ c ∈ rest.head?, c.isDigit = false)
    (hrest' : ∀ c ∈ rest'.head?, c.isDigit = false) (h : decimal m ++ rest = decimal n ++ rest') : m = n ∧ rest = rest' := by
  have hdigits : decimal m = decimal n := by
    rw [← takeWhile_decimal_append hrest, h, takeWhile_decimal_append hrest']
  rw [hdigits] at h
  refine ⟨?_, List.append_cancel_left h⟩
  calc
    m = Nat.ofDigitChars 10 (decimal m) 0 := Nat.ofDigitChars_ten_toDigits.symm
    _ = Nat.ofDigitChars 10 (decimal n) 0 := by rw [hdigits]
    _ = n := Nat.ofDigitChars_ten_toDigits

theorem isDigit_of_mem_padded {c : Char} (h : c ∈ padded width n) : c.isDigit = true := by
  rcases List.mem_append.mp h with h | h
  · obtain rfl := (List.mem_replicate.mp h).2
    rfl
  · exact isDigit_of_mem_decimal h

theorem length_padded (hwidth : 0 < width) (h : n < 10 ^ width) : (padded width n).length = width := by
  have hle : (decimal n).length ≤ width := (Nat.length_toDigits_le_iff (by decide) hwidth).mpr h
  rw [padded, List.length_append, List.length_replicate]
  omega

theorem natural?_padded (width n : Nat) : natural? (padded width n) = some n := by
  have hne : (padded width n).isEmpty = false := by
    have : decimal n ≠ [] := Nat.toDigits_ne_nil
    simp [padded, this]
  have hall : (padded width n).all Char.isDigit = true :=
    List.all_eq_true.mpr fun c hc => isDigit_of_mem_padded hc
  rw [natural?, hne, hall]
  simp [padded, decimal, Nat.ofDigitChars_append, Nat.ofDigitChars_replicate_zero, Nat.ofDigitChars_ten_toDigits]

theorem ofDigitChars_lt {cs : List Char} (h : ∀ c ∈ cs, c.isDigit = true) (front : Nat) :
    Nat.ofDigitChars 10 cs front < (front + 1) * 10 ^ cs.length := by
  induction cs generalizing front with
  | nil => simp [Nat.ofDigitChars]
  | cons c cs ih =>
    obtain ⟨hdigit, hrest⟩ := List.forall_mem_cons.mp h
    have hvalue : c.toNat - '0'.toNat ≤ 9 := by
      have hrange : 48 ≤ c.toNat ∧ c.toNat ≤ 57 := by
        simp only [Char.isDigit, Bool.and_eq_true, decide_eq_true_eq, ge_iff_le] at hdigit
        exact hdigit
      simp only [show '0'.toNat = 48 from rfl]
      omega
    calc
      Nat.ofDigitChars 10 (c :: cs) front = Nat.ofDigitChars 10 cs (10 * front + (c.toNat - '0'.toNat)) :=
        Nat.ofDigitChars_cons
      _ < (10 * front + (c.toNat - '0'.toNat) + 1) * 10 ^ cs.length := ih hrest _
      _ ≤ (front + 1) * 10 * 10 ^ cs.length := Nat.mul_le_mul_right _ (by omega)
      _ = (front + 1) * 10 ^ (c :: cs).length := by rw [List.length_cons, Nat.pow_succ', Nat.mul_assoc]

theorem lt_of_natural? {cs : List Char} (h : natural? cs = some n) : n < 10 ^ cs.length := by
  rw [natural?] at h
  split at h
  · cases h
  · rename_i hdigits
    cases h
    have hall : ∀ c ∈ cs, c.isDigit = true := by
      simp only [Bool.or_eq_true, Bool.not_eq_true', not_or, Bool.not_eq_false] at hdigits
      exact List.all_eq_true.mp hdigits.2
    simpa using ofDigitChars_lt hall 0

end SecretRotation.Text
