import SecretRotation.Text.Blank

/-!
# Texts without blanks at their ends

What is left of a text without the blanks at its ends neither begins nor ends with a blank, and a text that does neither
is left as it is.

## Main results

* `Text.trim_eq_self`: a text that neither begins nor ends with a blank is left as it is.
* `Text.trim_append_left`, `Text.trim_append_right`: blanks before and after a text are cut off.
* `Text.exists_blanks_append_trim`: only blanks are cut off.
* `Text.trim_trim`: cutting them off again changes nothing.
-/

namespace SecretRotation.Text

variable {c : Char} {cs : List Char}

theorem isBlank_eq_false_of_isDigit (h : c.isDigit = true) : isBlank c = false := by
  have hdigit : 48 ≤ c.toNat ∧ c.toNat ≤ 57 := by
    simp only [Char.isDigit, Bool.and_eq_true, decide_eq_true_eq, ge_iff_le] at h
    exact h
  simp only [isBlank, Bool.or_eq_false_iff, Bool.and_eq_false_iff, decide_eq_false_iff_not, beq_eq_false_iff_ne]
  omega

/-! ## The front of a text -/

theorem dropBlanks_eq_self (h : ∀ c ∈ cs.head?, isBlank c = false) : dropBlanks cs = cs := by
  cases cs with
  | nil => rfl
  | cons c cs => rw [dropBlanks, List.dropWhile_cons_of_neg (by simp [h c rfl])]

theorem isBlank_head?_dropBlanks (cs : List Char) : ∀ c ∈ (dropBlanks cs).head?, isBlank c = false := by
  intro c hc
  have hnot := List.head?_dropWhile_not isBlank cs
  rw [show (cs.dropWhile isBlank).head? = some c from hc] at hnot
  simpa using hnot

theorem exists_blanks_append_dropBlanks (cs : List Char) :
    ∃ blanks, (∀ c ∈ blanks, isBlank c = true) ∧ cs = blanks ++ dropBlanks cs :=
  ⟨cs.takeWhile isBlank, List.all_eq_true.mp List.all_takeWhile, List.takeWhile_append_dropWhile.symm⟩

theorem dropBlanks_append {blanks : List Char} (h : ∀ c ∈ blanks, isBlank c = true) (cs : List Char) :
    dropBlanks (blanks ++ cs) = dropBlanks cs :=
  List.dropWhile_append_of_pos h

/-! ## Both ends -/

/-- A text that neither begins nor ends with a blank is left as it is. -/
theorem trim_eq_self (hfront : ∀ c ∈ cs.head?, isBlank c = false) (hback : ∀ c ∈ cs.reverse.head?, isBlank c = false) :
    trim cs = cs := by
  rw [trim, dropBlanks_eq_self hfront, dropBlanks_eq_self hback, List.reverse_reverse]

/-- Blanks before a text are cut off. -/
theorem trim_append_left {blanks : List Char} (h : ∀ c ∈ blanks, isBlank c = true) (cs : List Char) :
    trim (blanks ++ cs) = trim cs := by
  rw [trim, dropBlanks_append h, trim]

/-- Nothing is left of blanks. -/
theorem trim_blanks {blanks : List Char} (h : ∀ c ∈ blanks, isBlank c = true) : trim blanks = [] := by
  rw [← List.append_nil blanks, trim_append_left h]
  rfl

/-- Blanks after a text are cut off. -/
theorem trim_append_right {blanks : List Char} (h : ∀ c ∈ blanks, isBlank c = true) (cs : List Char) :
    trim (cs ++ blanks) = trim cs := by
  obtain ⟨front, hfront, hcs⟩ := exists_blanks_append_dropBlanks cs
  rw [hcs, List.append_assoc, trim_append_left hfront, trim_append_left hfront]
  cases hrest : dropBlanks cs with
  | nil =>
    rw [List.nil_append, trim_blanks h]
    rfl
  | cons c rest =>
    -- The text begins with what is no blank, so that all is left of it in front.
    have hkept : ∀ after, dropBlanks (c :: rest ++ after) = c :: rest ++ after := fun after =>
      dropBlanks_eq_self (by simpa [hrest] using isBlank_head?_dropBlanks cs)
    have hself : dropBlanks (c :: rest) = c :: rest := by simpa using hkept []
    rw [trim, hkept, trim, hself, List.reverse_append, dropBlanks_append fun c hc => h c (List.mem_reverse.mp hc)]

theorem isBlank_head?_trim (cs : List Char) : ∀ c ∈ (trim cs).head?, isBlank c = false := by
  intro c hc
  obtain ⟨rest, hrest⟩ : trim cs <+: dropBlanks cs := by
    rw [trim, ← List.reverse_suffix, List.reverse_reverse]
    exact List.dropWhile_suffix _
  refine isBlank_head?_dropBlanks cs c ?_
  rw [← hrest, List.head?_append]
  simp [Option.mem_def.mp hc]

theorem isBlank_head?_reverse_trim (cs : List Char) : ∀ c ∈ (trim cs).reverse.head?, isBlank c = false := by
  rw [trim, List.reverse_reverse]
  exact isBlank_head?_dropBlanks _

/-- Cutting the blanks off again changes nothing. -/
theorem trim_trim (cs : List Char) : trim (trim cs) = trim cs :=
  trim_eq_self (isBlank_head?_trim cs) (isBlank_head?_reverse_trim cs)

/-- Only blanks are cut off. -/
theorem exists_blanks_append_trim (cs : List Char) :
    ∃ front back, (∀ c ∈ front, isBlank c = true) ∧ (∀ c ∈ back, isBlank c = true) ∧ cs = front ++ (trim cs ++ back) := by
  obtain ⟨front, hfront, hcs⟩ := exists_blanks_append_dropBlanks cs
  obtain ⟨back, hback, hrest⟩ := exists_blanks_append_dropBlanks (dropBlanks cs).reverse
  refine ⟨front, back.reverse, hfront, fun c hc => hback c (List.mem_reverse.mp hc), ?_⟩
  rw [trim, ← List.reverse_append, ← hrest, List.reverse_reverse]
  exact hcs

theorem mem_of_mem_trim (h : c ∈ trim cs) : c ∈ cs := by
  obtain ⟨front, back, -, -, hcs⟩ := exists_blanks_append_trim cs
  rw [hcs]
  exact List.mem_append_right _ (List.mem_append_left _ h)

end SecretRotation.Text
