import SecretRotation.Duration.Printer

/-!
# How durations are printed

A printed duration is made of letters, digits and spaces, so that it never holds a quote, a comma or a brace that would
be taken for a part of the text around it.

## Main results

* `Duration.isAlphanum_or_space_of_mem_format`: the characters of a printed duration.
-/

namespace SecretRotation

variable {c : Char}

theorem mem_or_exists_of_mem_intercalate {separator : List Char} {texts : List (List Char)}
    (h : c ∈ separator.intercalate texts) : c ∈ separator ∨ ∃ text ∈ texts, c ∈ text := by
  induction texts with
  | nil => cases h
  | cons text texts ih =>
    cases texts with
    | nil =>
      rw [List.intercalate_singleton] at h
      exact .inr ⟨text, List.mem_cons_self, h⟩
    | cons other others =>
      rw [List.intercalate_cons_cons, List.mem_append, List.mem_append] at h
      rcases h with (h | h) | h
      · exact .inr ⟨text, List.mem_cons_self, h⟩
      · exact .inl h
      · exact (ih h).imp_right fun ⟨text, htext, hmem⟩ => ⟨text, List.mem_cons_of_mem _ htext, hmem⟩

theorem Denomination.isAlphanum_of_mem_item {denomination : Denomination} {count : Nat} (hall : denomination ∈ all)
    (h : c ∈ denomination.item count) : c.isAlphanum = true := by
  have hsymbols : ∀ denomination ∈ all, denomination.symbol.toList.all Char.isAlphanum = true := by decide +kernel
  rw [item, List.mem_append, List.mem_append] at h
  rcases h with (h | h) | h
  · have hdigit := Nat.isDigit_of_mem_toDigits (by decide) (by decide) h
    rw [Char.isAlphanum, hdigit, Bool.or_true]
  · exact List.all_eq_true.mp (hsymbols denomination hall) c h
  · split at h
    · obtain rfl := List.mem_singleton.mp h
      rfl
    · cases h

namespace Duration

/-- Each item is a count of one of the denominations, and not zero. -/
theorem exists_of_mem_items {nanos : Nat} {denominations : List Denomination} {text : List Char}
    (h : text ∈ items nanos denominations) :
    ∃ denomination ∈ denominations, ∃ count, count ≠ 0 ∧ text = denomination.item count := by
  induction denominations generalizing nanos with
  | nil => cases h
  | cons denomination denominations ih =>
    simp only [items] at h
    have hrest : text ∈ items (nanos % denomination.size) denominations →
        ∃ d ∈ denomination :: denominations, ∃ count, count ≠ 0 ∧ text = d.item count := by
      intro h
      obtain ⟨d, hd, hcount⟩ := ih h
      exact ⟨d, List.mem_cons_of_mem _ hd, hcount⟩
    split at h
    · exact hrest h
    · rename_i hcount
      rcases List.mem_cons.mp h with rfl | h
      · exact ⟨denomination, List.mem_cons_self, _, hcount, rfl⟩
      · exact hrest h

/-- A printed duration is made of letters, digits and spaces. -/
theorem isAlphanum_or_space_of_mem_format {d : Duration} (h : c ∈ d.format.toList) : c.isAlphanum = true ∨ c = ' ' := by
  rw [format, String.toList_ofList, formatChars] at h
  split at h
  · have hzero : ['0', 's'].all Char.isAlphanum = true := by decide
    exact .inl (List.all_eq_true.mp hzero c h)
  · rcases mem_or_exists_of_mem_intercalate h with h | ⟨text, htext, h⟩
    · exact .inr (List.mem_singleton.mp h)
    · obtain ⟨denomination, hall, count, -, rfl⟩ := exists_of_mem_items htext
      exact .inl (Denomination.isAlphanum_of_mem_item hall h)

theorem quote_not_mem_format (d : Duration) : '"' ∉ d.format.toList := by
  intro h
  rcases isAlphanum_or_space_of_mem_format h with h | h <;> cases h

end Duration

end SecretRotation
