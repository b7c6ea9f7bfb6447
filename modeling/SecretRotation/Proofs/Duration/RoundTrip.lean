import SecretRotation.Proofs.Duration.Printer
import SecretRotation.Proofs.Duration.Reader
import SecretRotation.Proofs.Text.Numeral

/-!
# Reading printed durations back

A printed duration is a row of items with a space between them. The items tell the counts, the counts tell the duration,
so that no two durations are printed alike. Hours and smaller units are printed as the reader knows them, and no count is
too large for it: a duration below a day is read back. A longer one begins with days, months or years, which the reader
knows by no such word: it is refused and never taken for another duration.

## Main definitions

* `Denomination.endings`: what may follow a count.
* `Duration.leftover`: what is left of some nanoseconds when no more of the denominations fit.
* `Duration.texts`: the items of a printed duration.

## Main results

* `Duration.items_inj`: the items of some nanoseconds tell their number, up to what is left over.
* `Duration.exists_row_of_items`: items of units that the reader knows are a row, and come to what they were made of.
* `Duration.format_faithful`: printing is injective, and what is printed is read back or refused.
-/

namespace SecretRotation

/-! ## One item -/

namespace Denomination

variable {d d' : Denomination} {count count' : Nat}

/-- What may follow a count. -/
def endings (d : Denomination) : List (List Char) :=
  d.symbol.toList :: if d.isWord then [d.symbol.toList ++ ['s']] else []

theorem exists_ending_of_item (d : Denomination) (count : Nat) :
    ∃ ending ∈ d.endings, d.item count = Text.decimal count ++ ending := by
  rw [endings, item, List.append_assoc]
  by_cases hplural : (d.isWord && count != 1) = true
  · refine ⟨d.symbol.toList ++ ['s'], ?_, by rw [if_pos hplural]⟩
    rw [if_pos (Bool.and_eq_true_iff.mp hplural).1]
    simp
  · exact ⟨d.symbol.toList, List.mem_cons_self, by rw [if_neg hplural, List.append_nil]⟩

/-- An ending begins with a letter, so that the count is over. -/
theorem isDigit_head?_of_mem_endings (hall : d ∈ all) {ending : List Char} (h : ending ∈ d.endings) :
    ∀ c ∈ ending.head?, c.isDigit = false := by
  have hletters : ∀ d ∈ all, ∀ ending ∈ d.endings, ending.head?.all (!·.isDigit) = true := by decide +kernel
  have hletter := hletters d hall ending h
  intro c hc
  rw [Option.mem_def.mp hc] at hletter
  simpa using hletter

/-- Two denominations cannot be taken for one another. -/
def Apart (d d' : Denomination) : Prop := ∀ ending ∈ d.endings, ending ∉ d'.endings

instance (d d' : Denomination) : Decidable (d.Apart d') := inferInstanceAs (Decidable (∀ _ ∈ _, _))

theorem pairwise_apart_all : all.Pairwise Apart := by decide +kernel

/-- An item tells its count and its denomination. -/
theorem item_inj (hall : d ∈ all) (hall' : d' ∈ all) (h : d.item count = d'.item count') :
    count = count' ∧ ¬ d.Apart d' := by
  obtain ⟨ending, hending, hitem⟩ := exists_ending_of_item d count
  obtain ⟨ending', hending', hitem'⟩ := exists_ending_of_item d' count'
  rw [hitem, hitem'] at h
  obtain ⟨hcount, rfl⟩ := Text.decimal_append_inj (isDigit_head?_of_mem_endings hall hending)
    (isDigit_head?_of_mem_endings hall' hending') h
  exact ⟨hcount, fun hapart => hapart ending hending hending'⟩

end Denomination

namespace Duration

open TimeUnit (symbols)

variable {n m : Nat} {ds : List Denomination} {d : Denomination}

/-! ## Rows of items -/

/-- What is left of some nanoseconds when no more of the denominations fit. -/
def leftover (n : Nat) (ds : List Denomination) : Nat := ds.foldl (fun n d => n % d.size) n

theorem leftover_all (n : Nat) : leftover n Denomination.all = 0 := Nat.mod_one _

/-- A denomination that fits no time is left out. -/
theorem items_cons_of_eq_zero (h : n / d.size = 0) : items n (d :: ds) = items (n % d.size) ds := if_pos h

theorem items_cons_of_lt (h : n < d.size) : items n (d :: ds) = items n ds := by
  rw [items_cons_of_eq_zero (Nat.div_eq_of_lt h), Nat.mod_eq_of_lt h]

theorem items_cons_of_ne_zero (h : n / d.size ≠ 0) :
    items n (d :: ds) = d.item (n / d.size) :: items (n % d.size) ds := if_neg h

/-- No other denomination makes the item of one. -/
theorem item_notMem_items (hall : ∀ d' ∈ d :: ds, d' ∈ Denomination.all) (hapart : ∀ d' ∈ ds, d.Apart d') (count n : Nat) :
    d.item count ∉ items n ds := by
  intro h
  obtain ⟨d', hd', count', -, hitem⟩ := exists_of_mem_items h
  exact (Denomination.item_inj (hall d List.mem_cons_self) (hall d' (List.mem_cons_of_mem d hd')) hitem).2 (hapart d' hd')

/-- The items of some nanoseconds tell their number, up to what is left over. -/
theorem items_inj (hall : ∀ d ∈ ds, d ∈ Denomination.all) (hapart : ds.Pairwise Denomination.Apart)
    (hitems : items n ds = items m ds) (hleft : leftover n ds = leftover m ds) : n = m := by
  induction ds generalizing n m with
  | nil => exact hleft
  | cons d ds ih =>
    obtain ⟨hfirst, hrest⟩ := List.pairwise_cons.mp hapart
    have hother := item_notMem_items hall hfirst
    -- The first item is that of the largest denomination, or it does not occur on either side.
    have hsame : n / d.size = m / d.size ∧ items (n % d.size) ds = items (m % d.size) ds := by
      by_cases hn : n / d.size = 0 <;> by_cases hm : m / d.size = 0
      · rw [items_cons_of_eq_zero hn, items_cons_of_eq_zero hm] at hitems
        exact ⟨hn.trans hm.symm, hitems⟩
      · rw [items_cons_of_eq_zero hn, items_cons_of_ne_zero hm] at hitems
        exact absurd (hitems ▸ List.mem_cons_self) (hother (m / d.size) (n % d.size))
      · rw [items_cons_of_ne_zero hn, items_cons_of_eq_zero hm] at hitems
        exact absurd (hitems ▸ List.mem_cons_self) (hother (n / d.size) (m % d.size))
      · rw [items_cons_of_ne_zero hn, items_cons_of_ne_zero hm] at hitems
        obtain ⟨hitem, hitems⟩ := List.cons.inj hitems
        have hmem := hall d List.mem_cons_self
        exact ⟨(Denomination.item_inj hmem hmem hitem).1, hitems⟩
    obtain ⟨hcount, hitems⟩ := hsame
    have hrest := ih (fun d' hd' => hall d' (List.mem_cons_of_mem d hd')) hrest hitems hleft
    rw [← Nat.div_add_mod n d.size, ← Nat.div_add_mod m d.size, hcount, hrest]

/-- After the first of several texts there is a gap of blanks, and after the last one nothing. -/
theorem exists_gap (text : List Char) (texts : List (List Char)) :
    ∃ gap, (∀ c ∈ gap, Text.isBlank c = true) ∧ (gap = [] → texts = []) ∧
      [' '].intercalate (text :: texts) = text ++ gap ++ [' '].intercalate texts := by
  cases texts with
  | nil => exact ⟨[], by simp, fun _ => rfl, by simp⟩
  | cons other others => exact ⟨[' '], List.forall_mem_singleton.mpr rfl, by simp, List.intercalate_cons_cons⟩

theorem spelledAfter_decimal (n : Nat) : spelledAfter 0 (Text.decimal n) = n := by
  rw [spelledAfter, List.filter_eq_self.mpr fun c hc => Text.isDigit_of_mem_decimal hc]
  exact Nat.ofDigitChars_ten_toDigits

/-- Items of units that the reader knows are a row, and come to what they were made of. -/
theorem exists_row_of_items (hsymbols : ∀ d ∈ ds, d.isWord = false ∧ (d.symbol.toList, d.size) ∈ symbols) (n : Nat) :
    ∃ sum, Items ([' '].intercalate (items n ds)) sum ∧ sum + leftover n ds = n := by
  induction ds generalizing n with
  | nil => exact ⟨0, .nil, Nat.zero_add n⟩
  | cons d ds ih =>
    obtain ⟨hword, hsymbol⟩ := hsymbols d List.mem_cons_self
    obtain ⟨sum, hrow, hsum⟩ := ih (fun d' hd' => hsymbols d' (List.mem_cons_of_mem d hd')) (n % d.size)
    have hleft : leftover n (d :: ds) = leftover (n % d.size) ds := rfl
    have hparts := Nat.div_add_mod' n d.size
    by_cases hcount : n / d.size = 0
    · rw [items_cons_of_eq_zero hcount, hleft]
      refine ⟨sum, hrow, ?_⟩
      rw [hcount] at hparts
      omega
    · rw [items_cons_of_ne_zero hcount, hleft]
      obtain ⟨gap, hgap, -, htext⟩ := exists_gap (d.item (n / d.size)) (items (n % d.size) ds)
      obtain ⟨first, more, hdigits⟩ := List.exists_cons_of_ne_nil (l := Text.decimal (n / d.size)) Nat.toDigits_ne_nil
      have hdigit : ∀ c ∈ first :: more, c.isDigit = true := fun c hc => Text.isDigit_of_mem_decimal (hdigits ▸ hc)
      obtain ⟨hfirst, hmore⟩ := List.forall_mem_cons.mp hdigit
      have hitem : d.item (n / d.size) = first :: more ++ d.symbol.toList := by
        rw [Denomination.item, hword, ← hdigits]
        simp
      have hrow := Items.cons hfirst (fun c hc => .inl (hmore c hc)) hsymbol hgap hrow
      rw [← hdigits, spelledAfter_decimal, hdigits, ← hitem, ← htext] at hrow
      exact ⟨_, hrow, by omega⟩

/-! ## Whole texts -/

/-- The items of a printed duration. -/
def texts (d : Duration) : List (List Char) :=
  if d.nanoseconds = 0 then [['0', 's']] else items d.nanoseconds Denomination.all

theorem formatChars_eq (d : Duration) : d.formatChars = [' '].intercalate d.texts := by
  rw [formatChars, texts]
  split
  · exact List.intercalate_singleton.symm
  · rfl

/-- Each of them is a count of a denomination, which is zero for no time at all only. -/
theorem exists_of_mem_texts {d : Duration} {text : List Char} (h : text ∈ d.texts) :
    ∃ denomination ∈ Denomination.all, ∃ count, (count = 0 ↔ d.nanoseconds = 0) ∧ text = denomination.item count := by
  rw [texts] at h
  split at h
  · rename_i hzero
    obtain rfl := List.mem_singleton.mp h
    exact ⟨⟨perSecond, "s", false⟩, by simp [Denomination.all], 0, by simp [hzero], by decide +kernel⟩
  · rename_i hzero
    obtain ⟨denomination, hall, count, hcount, htext⟩ := exists_of_mem_items h
    exact ⟨denomination, hall, count, by simp [hcount, hzero], htext⟩

theorem texts_ne_nil (d : Duration) : d.texts ≠ [] := by
  intro h
  rw [texts] at h
  split at h
  · cases h
  · rename_i hzero
    -- Without any items, nothing would be left over of no time at all only.
    refine hzero (items_inj (fun _ => id) Denomination.pairwise_apart_all ?_ ?_)
    · rw [h]
      rfl
    · rw [leftover_all, leftover_all]

theorem isAlphanum_of_mem_texts {d : Duration} {text : List Char} (h : text ∈ d.texts) :
    ∀ c ∈ text, c.isAlphanum = true := by
  obtain ⟨denomination, hall, count, -, rfl⟩ := exists_of_mem_texts h
  exact fun c hc => Denomination.isAlphanum_of_mem_item hall hc

/-- The spaces tell the items apart. -/
theorem splitOn_formatChars (d : Duration) : d.formatChars.splitOn ' ' = d.texts := by
  rw [formatChars_eq]
  refine List.splitOn_intercalate ' ' (fun text htext hspace => ?_) d.texts_ne_nil
  have hletter := isAlphanum_of_mem_texts htext ' ' hspace
  revert hletter
  decide

/-- No two durations are printed alike. -/
theorem format_injective : Function.Injective format := by
  intro d d' h
  have htexts : d.texts = d'.texts := by
    rw [← splitOn_formatChars, String.ofList_injective h, splitOn_formatChars]
  have hzero : d.nanoseconds = 0 ↔ d'.nanoseconds = 0 := by
    obtain ⟨text, htext⟩ := List.exists_mem_of_ne_nil _ d.texts_ne_nil
    obtain ⟨_, hall, count, hcount, rfl⟩ := exists_of_mem_texts htext
    obtain ⟨_, hall', count', hcount', hitem⟩ := exists_of_mem_texts (htexts ▸ htext)
    rw [← hcount, ← hcount', (Denomination.item_inj hall hall' hitem).1]
  have hnanos : d.nanoseconds = d'.nanoseconds := by
    by_cases h0 : d.nanoseconds = 0
    · rw [h0, hzero.mp h0]
    · rw [texts, texts, if_neg h0, if_neg (mt hzero.mpr h0)] at htexts
      exact items_inj (fun _ => id) Denomination.pairwise_apart_all htexts (by rw [leftover_all, leftover_all])
  exact congrArg Duration.mk hnanos

/-! ## Reading -/

theorem isBlank_eq_false_of_isAlphanum {c : Char} (h : c.isAlphanum = true) : Text.isBlank c = false := by
  have hrange : (65 ≤ c.toNat ∧ c.toNat ≤ 90 ∨ 97 ≤ c.toNat ∧ c.toNat ≤ 122) ∨ 48 ≤ c.toNat ∧ c.toNat ≤ 57 := by
    have hclasses : ((decide ('A'.val ≤ c.val ∧ c.val ≤ 'Z'.val) || decide ('a'.val ≤ c.val) && decide (c.val ≤ 'z'.val)) ||
        decide ('0'.val ≤ c.val) && decide (c.val ≤ '9'.val)) = true := h
    simp only [Bool.or_eq_true, Bool.and_eq_true, decide_eq_true_eq] at hclasses
    exact hclasses
  simp only [Text.isBlank, Bool.or_eq_false_iff, Bool.and_eq_false_iff, decide_eq_false_iff_not, beq_eq_false_iff_ne]
  omega

/-- Texts with a space between them end as the last of them does. -/
theorem isBlank_getLast?_intercalate {texts : List (List Char)}
    (h : ∀ text ∈ texts, text ≠ [] ∧ ∀ c ∈ text, Text.isBlank c = false) :
    ∀ c ∈ ([' '].intercalate texts).getLast?, Text.isBlank c = false := by
  induction texts with
  | nil => simp
  | cons text texts ih =>
    obtain ⟨⟨-, htext⟩, hothers⟩ := List.forall_mem_cons.mp h
    cases texts with
    | nil =>
      rw [List.intercalate_singleton]
      exact fun c hc => htext c (List.mem_of_getLast? hc)
    | cons other others =>
      have hne : [' '].intercalate (other :: others) ≠ [] := by
        obtain ⟨gap, -, -, heq⟩ := exists_gap other others
        rw [heq]
        simp [(hothers other List.mem_cons_self).1]
      rw [List.intercalate_cons_cons, List.getLast?_append, Option.or_of_isSome (List.getLast?_isSome.mpr hne)]
      exact ih hothers

theorem trim_formatChars (d : Duration) : Text.trim d.formatChars = d.formatChars := by
  have hletters : ∀ text ∈ d.texts, text ≠ [] ∧ ∀ c ∈ text, Text.isBlank c = false := by
    intro text htext
    refine ⟨?_, fun c hc => isBlank_eq_false_of_isAlphanum (isAlphanum_of_mem_texts htext c hc)⟩
    obtain ⟨denomination, -, count, -, rfl⟩ := exists_of_mem_texts htext
    have hdigits : Text.decimal count ≠ [] := Nat.toDigits_ne_nil
    simp [Denomination.item, hdigits]
  refine Text.trim_eq_self ?_ ?_
  · rw [formatChars_eq]
    obtain ⟨text, texts, htexts⟩ := List.exists_cons_of_ne_nil d.texts_ne_nil
    obtain ⟨gap, -, -, heq⟩ := exists_gap text texts
    obtain ⟨hne, hfirst⟩ := hletters text (htexts ▸ List.mem_cons_self)
    rw [htexts, heq, List.append_assoc, List.head?_append, Option.or_of_isSome (List.isSome_head?.mpr hne)]
    exact fun c hc => hfirst c (List.mem_of_mem_head? hc)
  · rw [List.head?_reverse, formatChars_eq]
    exact isBlank_getLast?_intercalate hletters

/-- Below a day there are no counts but those of hours and smaller units. -/
theorem items_all_of_lt (h : n < 86400 * perSecond) :
    items n Denomination.all = items n (Denomination.all.drop 3) := by
  have hyear : n < 31557600 * perSecond := Nat.lt_trans h (by decide)
  have hmonth : n < 2630016 * perSecond := Nat.lt_trans h (by decide)
  rw [Denomination.all, items_cons_of_lt hyear, items_cons_of_lt hmonth, items_cons_of_lt h]
  rfl

/-- From a day on the first count is one of days, months or years. -/
theorem exists_of_items_all (h : 86400 * perSecond ≤ n) :
    ∃ d ∈ Denomination.all.take 3, ∃ count rest, items n Denomination.all = d.item count :: rest := by
  have hfits : ∀ {d : Denomination}, 0 < d.size → ¬ n < d.size → n / d.size ≠ 0 := fun hpos hfits =>
    Nat.ne_of_gt (Nat.div_pos (Nat.not_lt.mp hfits) hpos)
  rw [Denomination.all]
  by_cases hyear : n < 31557600 * perSecond
  · rw [items_cons_of_lt hyear]
    by_cases hmonth : n < 2630016 * perSecond
    · rw [items_cons_of_lt hmonth, items_cons_of_ne_zero (hfits (by decide) (Nat.not_lt.mpr h))]
      exact ⟨_, by simp, _, _, rfl⟩
    · rw [items_cons_of_ne_zero (hfits (by decide) hmonth)]
      exact ⟨_, by simp, _, _, rfl⟩
  · rw [items_cons_of_ne_zero (hfits (by decide) hyear)]
    exact ⟨_, by simp, _, _, rfl⟩

/-- A duration below a day is printed as a row of items that comes to it. -/
theorem written_formatChars {d : Duration} (h : d < ofSeconds 86400) : Written d.formatChars d.nanoseconds := by
  have hsymbols : ∀ d ∈ Denomination.all.drop 3, d.isWord = false ∧ (d.symbol.toList, d.size) ∈ symbols := by
    decide +kernel
  rw [formatChars]
  split
  · rename_i hzero
    have hrow : Items (['0'] ++ ['s'] ++ [] ++ []) (spelledAfter 0 ['0'] * perSecond + 0) :=
      .cons (by decide) (by simp) (by decide) (by simp) .nil
    rw [hzero]
    exact ⟨by simp, hrow⟩
  · rename_i hzero
    obtain ⟨sum, hrow, hsum⟩ := exists_row_of_items hsymbols d.nanoseconds
    have hleft : leftover d.nanoseconds (Denomination.all.drop 3) = 0 := Nat.mod_one _
    obtain rfl : sum = d.nanoseconds := by omega
    rw [items_all_of_lt h]
    exact ⟨fun hnil => hzero (awaits_nil.mp (hnil ▸ hrow).awaits), hrow⟩

/-- A longer one is printed with a word that is no unit. -/
theorem not_onlyUnits_formatChars {d : Duration} (h : ofSeconds 86400 ≤ d) : ¬ OnlyUnits d.formatChars := by
  have hwords : ∀ d ∈ Denomination.all.take 3, ∀ ending ∈ d.endings, foreignUnit? ending ≠ none := by decide +kernel
  obtain ⟨denomination, hword, count, rest, hitems⟩ := exists_of_items_all h
  obtain ⟨ending, hending, hitem⟩ := denomination.exists_ending_of_item count
  obtain ⟨gap, hgap, hlast, htext⟩ := exists_gap (denomination.item count) rest
  have hnonzero : d.nanoseconds ≠ 0 := Nat.ne_of_gt (Nat.lt_of_lt_of_le (by decide) h)
  have hafter : ∀ c ∈ (gap ++ [' '].intercalate rest).head?, separatesUnits c = true := by
    cases gap with
    | nil => simp [hlast rfl]
    | cons b gap =>
      rintro _ ⟨⟩
      exact separatesUnits_iff.mpr (.inr (hgap b List.mem_cons_self))
  rw [formatChars, if_neg hnonzero, hitems, htext, hitem, List.append_assoc, List.append_assoc,
    onlyUnits_append_of_separates fun c hc => separatesUnits_iff.mpr (.inl (Text.isDigit_of_mem_decimal hc)),
    onlyUnits_append hafter]
  exact fun hunits => hwords denomination hword ending hending (foreignUnit?_eq_none_iff.mpr hunits.1)

theorem parse_format (d : Duration) :
    parse d.format = (parseTrimmed d.formatChars).mapError fun fault => ⟨d.format, fault⟩ := by
  rw [parse, format, String.toList_ofList, trim_formatChars]
  cases parseTrimmed d.formatChars <;> rfl

/-- A digit alone is no row: a unit has to follow. -/
theorem Written.ne_singleton {cs : List Char} (h : Written cs n) : cs ≠ ['0'] := by
  rintro rfl
  exact not_counts_nil ((awaits_cons_of_isDigit (by decide)).mp h.2.awaits)

/-- **Printed durations are faithful.** No two durations are printed alike. A duration below twenty-four hours is read back
as it was; a longer one is refused for one of the words in it, and so never read as another duration. -/
theorem format_faithful :
    Function.Injective format ∧
      ∀ d, (d < ofSeconds 86400 → parse d.format = .ok d) ∧
        (ofSeconds 86400 ≤ d → ∃ word, parse d.format = .error ⟨d.format, .unknownUnit word⟩) := by
  refine ⟨format_injective, fun d => ⟨fun h => ?_, fun h => ?_⟩⟩
  · have hwritten := written_formatChars h
    have hbound : d.nanoseconds < Text.signedBound := Nat.lt_trans h (by decide)
    rw [parse_format, parseTrimmed_of_written hwritten hwritten.ne_singleton hbound]
    rfl
  · obtain ⟨piece, hpiece⟩ := Option.ne_none_iff_exists'.mp (mt foreignUnit?_eq_none_iff.mp (not_onlyUnits_formatChars h))
    refine ⟨String.ofList piece, ?_⟩
    rw [parse_format, parseTrimmed, hpiece]
    rfl

end Duration

end SecretRotation
