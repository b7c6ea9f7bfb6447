import Mathlib.Algebra.Group.Nat.Defs
import SecretRotation.Proofs.Duration.Written
import SecretRotation.Proofs.Result

/-!
# What the reader of durations takes

The reader goes through a text character by character and never looks back. Wherever it stands, it gets to the end of a
text just if this is how a row of items may go on from there, and it adds up what the row comes to. It may give up on a
row because a number or a sum is too large, but not below `2^63` nanoseconds.

## Main results

* `Duration.continues_of_readItems`, `Duration.readItems_of_continues`: what is read from a place in a row.
* `Duration.foreignUnit?_eq_none_iff`: the letters that are let through.
* `Duration.written_of_parseTrimmed`, `Duration.parseTrimmed_of_written`: what is read is a row of items, with the same sum,
  and such a row is read.
* `Duration.parse_exactly_written`: all of this for texts with blanks at their ends.
-/

namespace SecretRotation.Duration

open TimeUnit (symbols)

variable {c : Char} {cs text : List Char} {n sum : Nat} {total d : Duration}

/-! ## Digits and items -/

theorem pushDigit_eq_ok_iff {m : Nat} :
    pushDigit n c = .ok m ↔ m = 10 * n + (c.toNat - '0'.toNat) ∧ m < Text.wordBound := by
  constructor
  · intro h
    simp only [pushDigit] at h
    split at h
    case isTrue hfits =>
      cases h
      exact ⟨rfl, hfits⟩
    case isFalse => cases h
  · rintro ⟨rfl, hfits⟩
    exact if_pos hfits

/-- A digit is taken if what it leads to is not too large. -/
theorem pushDigit_of_counts (h : Counts (10 * n + (c.toNat - '0'.toNat)) cs sum) (hbound : sum < Text.signedBound) :
    pushDigit n c = .ok (10 * n + (c.toNat - '0'.toNat)) := by
  have hle := le_of_counts h
  rw [Text.signedBound] at hbound
  exact pushDigit_eq_ok_iff.mpr ⟨rfl, by rw [Text.wordBound]; omega⟩

/-- An item that is counted is added exactly, and the sum stays within its range. -/
theorem sum_of_addCount {unit : TimeUnit} (h : addCount total n unit = .ok d) :
    d.nanoseconds = total.nanoseconds + n * unit.nanoseconds ∧ d.seconds < Text.wordBound := by
  unfold addCount at h
  extract_lets count fraction sum at h
  split at h
  case isTrue hfits =>
    obtain rfl : sum = d := Except.ok.inj h
    simp only [Bool.and_eq_true, decide_eq_true_eq] at hfits
    exact ⟨rfl, hfits.2⟩
  case isFalse => split at h <;> cases h

/-- An item that is taken has the symbol of a unit. -/
theorem exists_unit_of_addItem (h : addItem total n text = .ok d) :
    ∃ unit, TimeUnit.ofText? text = some unit ∧ addCount total n unit = .ok d := by
  rw [addItem] at h
  split at h
  case h_1 => cases h
  case h_2 unit hunit => exact ⟨unit, hunit, h⟩

theorem exists_size_of_addItem (h : addItem total n text = .ok d) :
    ∃ size, (text, size) ∈ symbols ∧ d.nanoseconds = total.nanoseconds + n * size := by
  obtain ⟨unit, hunit, hcount⟩ := exists_unit_of_addItem h
  exact ⟨unit.nanoseconds, TimeUnit.mem_symbols_iff.mpr ⟨unit, hunit, rfl⟩, (sum_of_addCount hcount).1⟩

theorem seconds_lt_of_addItem (h : addItem total n text = .ok d) : d.seconds < Text.wordBound := by
  obtain ⟨unit, -, hcount⟩ := exists_unit_of_addItem h
  exact (sum_of_addCount hcount).2

theorem factor_le_nanoseconds (unit : TimeUnit) : unit.factor ≤ unit.nanoseconds := by
  cases unit <;> decide

/-- An item with the symbol of a unit is taken, if the sum is not too large. -/
theorem addItem_eq_ok {size : Nat} (hsymbol : (text, size) ∈ symbols)
    (hbound : total.nanoseconds + n * size < Text.signedBound) :
    addItem total n text = .ok ⟨total.nanoseconds + n * size⟩ := by
  obtain ⟨unit, hunit, rfl⟩ := TimeUnit.mem_symbols_iff.mp hsymbol
  -- All that has to fit a machine word is at most the sum in nanoseconds.
  have hcount : n * unit.factor ≤ n * unit.nanoseconds := Nat.mul_le_mul_left n (factor_le_nanoseconds unit)
  have hfraction : (if unit.isFraction then n * unit.factor else 0) ≤ n * unit.factor := by split <;> omega
  have hsubsecond : total.subsecond ≤ total.nanoseconds := Nat.mod_le _ _
  have hseconds : (total + ⟨n * unit.nanoseconds⟩ : Duration).seconds ≤ total.nanoseconds + n * unit.nanoseconds :=
    Nat.div_le_self _ _
  rw [Text.signedBound] at hbound
  rw [addItem, hunit]
  simp only [addCount]
  rw [if_pos]
  · rfl
  · simp only [Bool.and_eq_true, decide_eq_true_eq]
    rw [Text.wordBound]
    omega

/-! ## Places in a row -/

/-- What is read to its end is how a row may go on, and the sum of the row is added. -/
theorem continues_of_readItems {state : ItemState} {offset : Nat} (h : readItems state total offset cs = .ok d) :
    ∃ sum, Continues state cs sum ∧ d.nanoseconds = total.nanoseconds + sum := by
  -- The reader's own cases: in each place the end of the text, then a digit, a blank and any other character.
  fun_induction readItems state total offset cs
  case case1 =>
    cases h
    exact ⟨0, awaits_nil.mpr rfl, rfl⟩
  case case2 => cases h
  case case3 =>
    obtain ⟨size, hsymbol, hsum⟩ := exists_size_of_addItem h
    exact ⟨_, completes_nil.mpr ⟨size, hsymbol, rfl⟩, hsum⟩
  case case4 hdigit ih =>
    obtain ⟨m, hpush, h⟩ := exists_of_bind_eq_ok h
    obtain ⟨rfl, -⟩ := pushDigit_eq_ok_iff.mp hpush
    obtain ⟨sum, hcounts, hsum⟩ := ih _ h
    exact ⟨sum, (awaits_cons_of_isDigit hdigit).mpr hcounts, hsum⟩
  case case5 hblank ih =>
    obtain ⟨sum, hawaits, hsum⟩ := ih h
    exact ⟨sum, (awaits_cons_of_isBlank hblank).mpr hawaits, hsum⟩
  case case6 => cases h
  case case7 hdigit ih =>
    obtain ⟨m, hpush, h⟩ := exists_of_bind_eq_ok h
    obtain ⟨rfl, -⟩ := pushDigit_eq_ok_iff.mp hpush
    obtain ⟨sum, hcounts, hsum⟩ := ih _ h
    exact ⟨sum, (counts_cons_of_isDigit hdigit).mpr hcounts, hsum⟩
  case case8 hblank ih =>
    obtain ⟨sum, hcounts, hsum⟩ := ih h
    exact ⟨sum, (counts_cons_of_isBlank hblank).mpr hcounts, hsum⟩
  case case9 hdigit hblank ih =>
    obtain ⟨sum, hcompletes, hsum⟩ := ih h
    exact ⟨sum, (counts_cons_of_not_separates (separatesUnits_eq_false hdigit hblank)).mpr hcompletes, hsum⟩
  case case10 n text hdigit ih =>
    obtain ⟨total', hitem, h⟩ := exists_of_bind_eq_ok h
    obtain ⟨m, hpush, h⟩ := exists_of_bind_eq_ok h
    obtain ⟨rfl, -⟩ := pushDigit_eq_ok_iff.mp hpush
    obtain ⟨size, hsymbol, htotal⟩ := exists_size_of_addItem hitem
    obtain ⟨sum, hcounts, hsum⟩ := ih _ _ h
    refine ⟨n * size + sum, (completes_cons_of_isDigit hdigit).mpr ⟨size, sum, hsymbol, hcounts, rfl⟩, ?_⟩
    rw [hsum, htotal, Nat.add_assoc]
  case case11 n text hdigit hblank ih =>
    obtain ⟨total', hitem, h⟩ := exists_of_bind_eq_ok h
    obtain ⟨size, hsymbol, htotal⟩ := exists_size_of_addItem hitem
    obtain ⟨sum, hawaits, hsum⟩ := ih _ h
    refine ⟨n * size + sum, (completes_cons_of_isBlank hblank).mpr ⟨size, sum, hsymbol, hawaits, rfl⟩, ?_⟩
    rw [hsum, htotal, Nat.add_assoc]
  case case12 hdigit hblank ih =>
    obtain ⟨sum, hcompletes, hsum⟩ := ih h
    exact ⟨sum, (completes_cons_of_not_separates (separatesUnits_eq_false hdigit hblank)).mpr hcompletes, hsum⟩

/-- The sum stays within its range. -/
theorem seconds_lt_of_readItems {state : ItemState} {offset : Nat} (h : readItems state total offset cs = .ok d)
    (htotal : total.seconds < Text.wordBound) : d.seconds < Text.wordBound := by
  fun_induction readItems state total offset cs
  case case1 =>
    cases h
    exact htotal
  case case2 | case6 => cases h
  case case3 => exact seconds_lt_of_addItem h
  case case4 ih | case7 ih =>
    obtain ⟨m, -, h⟩ := exists_of_bind_eq_ok h
    exact ih m h htotal
  case case5 ih | case8 ih | case9 ih | case12 ih => exact ih h htotal
  case case10 ih =>
    obtain ⟨total', hitem, h⟩ := exists_of_bind_eq_ok h
    obtain ⟨m, -, h⟩ := exists_of_bind_eq_ok h
    exact ih total' m h (seconds_lt_of_addItem hitem)
  case case11 ih =>
    obtain ⟨total', hitem, h⟩ := exists_of_bind_eq_ok h
    exact ih total' h (seconds_lt_of_addItem hitem)

/-- What may go on a row is read to its end, if the sum is not too large. -/
theorem readItems_of_continues {state : ItemState} {offset : Nat} (h : Continues state cs sum)
    (hbound : total.nanoseconds + sum < Text.signedBound) :
    readItems state total offset cs = .ok ⟨total.nanoseconds + sum⟩ := by
  fun_induction readItems state total offset cs generalizing sum
  case case1 =>
    obtain rfl := awaits_nil.mp h
    rfl
  case case2 => exact absurd h not_counts_nil
  case case3 =>
    obtain ⟨size, hsymbol, rfl⟩ := completes_nil.mp h
    exact addItem_eq_ok hsymbol hbound
  case case4 hdigit ih =>
    have hcounts := (awaits_cons_of_isDigit hdigit).mp h
    rw [pushDigit_of_counts hcounts (by omega)]
    exact ih _ hcounts hbound
  case case5 hblank ih => exact ih ((awaits_cons_of_isBlank hblank).mp h) hbound
  case case6 hdigit hblank => exact absurd h (not_awaits_cons hdigit hblank)
  case case7 hdigit ih =>
    have hcounts := (counts_cons_of_isDigit hdigit).mp h
    rw [pushDigit_of_counts hcounts (by omega)]
    exact ih _ hcounts hbound
  case case8 hblank ih => exact ih ((counts_cons_of_isBlank hblank).mp h) hbound
  case case9 hdigit hblank ih =>
    exact ih ((counts_cons_of_not_separates (separatesUnits_eq_false hdigit hblank)).mp h) hbound
  case case10 hdigit ih =>
    obtain ⟨size, rest, hsymbol, hcounts, rfl⟩ := (completes_cons_of_isDigit hdigit).mp h
    rw [← Nat.add_assoc] at hbound ⊢
    rw [addItem_eq_ok hsymbol (by omega), pushDigit_of_counts hcounts (by omega)]
    exact ih _ _ hcounts hbound
  case case11 hblank ih =>
    obtain ⟨size, rest, hsymbol, hafter, rfl⟩ := (completes_cons_of_isBlank hblank).mp h
    rw [← Nat.add_assoc] at hbound ⊢
    rw [addItem_eq_ok hsymbol (by omega)]
    exact ih _ hafter hbound
  case case12 hdigit hblank ih =>
    exact ih ((completes_cons_of_not_separates (separatesUnits_eq_false hdigit hblank)).mp h) hbound

/-! ## Whole texts -/

/-- A text is let through just if all its letters are those of units. -/
theorem foreignUnit?_eq_none_iff : foreignUnit? cs = none ↔ OnlyUnits cs := by
  rw [foreignUnit?, List.find?_eq_none, OnlyUnits]
  refine forall₂_congr fun piece _ => ?_
  have hunit : (∃ size, (piece, size) ∈ symbols) ↔ (TimeUnit.ofText? piece).isSome = true := by
    rw [Option.isSome_iff_exists]
    constructor
    · rintro ⟨size, hsymbol⟩
      obtain ⟨unit, hunit, -⟩ := TimeUnit.mem_symbols_iff.mp hsymbol
      exact ⟨unit, hunit⟩
    · rintro ⟨unit, hunit⟩
      exact ⟨_, TimeUnit.mem_symbols_iff.mpr ⟨unit, hunit, rfl⟩⟩
  rw [hunit]
  cases TimeUnit.ofText? piece with
  | none => simp
  | some unit => simp

theorem parse_eq_ok_iff {s : String} : parse s = .ok d ↔ parseTrimmed (Text.trim s.toList) = .ok d := by
  rw [parse]
  cases parseTrimmed (Text.trim s.toList) with
  | ok d' => simp
  | error fault => simp

/-- What is read is a row of items, and comes to their sum. -/
theorem written_of_parseTrimmed (h : parseTrimmed (Text.trim cs) = .ok d) (hzero : Text.trim cs ≠ ['0']) :
    Written (Text.trim cs) d.nanoseconds ∧ d.seconds < Text.wordBound := by
  rw [parseTrimmed] at h
  split at h
  case h_1 => cases h
  split at h
  case isTrue => cases h
  rename_i hne
  obtain ⟨sum, hawaits, hsum⟩ := continues_of_readItems h
  refine ⟨⟨hne, ?_⟩, seconds_lt_of_readItems h (by decide)⟩
  rw [hsum, nanoseconds_zero, Nat.zero_add]
  exact (awaits_iff_items (Text.isBlank_head?_trim cs)).mp hawaits

/-- A row of items is read, if its sum is not too large. -/
theorem parseTrimmed_of_written (h : Written cs n) (hzero : cs ≠ ['0']) (hbound : n < Text.signedBound) :
    parseTrimmed cs = .ok ⟨n⟩ := by
  obtain ⟨hne, hitems⟩ := h
  have hplace : Continues (.seeking 0) cs n := hitems.awaits
  have hread : readItems (.seeking 0) zero 0 cs = .ok ⟨zero.nanoseconds + n⟩ :=
    readItems_of_continues hplace (by rwa [nanoseconds_zero, Nat.zero_add])
  rw [parseTrimmed, foreignUnit?_eq_none_iff.mpr hitems.onlyUnits]
  simp only [if_neg hne, if_neg hzero, hread, nanoseconds_zero, Nat.zero_add]

/-- **Durations are read as written.** Apart from a lone zero, a text that is read as a duration is, without the blanks at
its ends, a row of items. The duration is the sum of all its numbers times their units, which is the only one and within
the range of a machine, and nothing but the symbols of the eight units stands anywhere between its digits and blanks. A
text that is such a row is read if it comes to less than `2^63` nanoseconds. -/
theorem parse_exactly_written (s : String) (hzero : Text.trim s.toList ≠ ['0']) :
    (∀ d, parse s = .ok d → Written (Text.trim s.toList) d.nanoseconds ∧
      (∀ n, Written (Text.trim s.toList) n → n = d.nanoseconds) ∧ d.seconds < Text.wordBound ∧ OnlyUnits s.toList) ∧
    ∀ n, Written (Text.trim s.toList) n → n < 2 ^ 63 → parse s = .ok ⟨n⟩ := by
  refine ⟨fun d h => ?_, fun n h hbound => ?_⟩
  · obtain ⟨hwritten, hrange⟩ := written_of_parseTrimmed (parse_eq_ok_iff.mp h) hzero
    exact ⟨hwritten, fun n h' => h'.unique hwritten, hrange, onlyUnits_trim.mp hwritten.2.onlyUnits⟩
  · exact parse_eq_ok_iff.mpr (parseTrimmed_of_written h hzero hbound)

/-- A text with blanks at its ends, within a number and between items, and with two items that nothing separates. -/
def spread : String := " 1d\t1 2h250ms\n"

/-- The row is one day, twelve hours and a quarter of a second long. -/
theorem parse_exactly_written_spread :
    Text.trim spread.toList ≠ ['0'] ∧ Written (Text.trim spread.toList) 129600250000000 ∧
      parse spread = .ok ⟨129600250000000⟩ ∧ OnlyUnits spread.toList := by
  have hzero : Text.trim spread.toList ≠ ['0'] := by decide +kernel
  have hparse : ⟨129600250000000⟩ ∈ (parse spread).toOption := by decide +kernel
  obtain ⟨hread, hwritten⟩ := parse_exactly_written spread hzero
  obtain ⟨hrow, -, -, hunits⟩ := hread _ (eq_ok_of_mem_toOption hparse)
  exact ⟨hzero, hrow, hwritten _ hrow (by decide), hunits⟩

end SecretRotation.Duration
