import SecretRotation.Instant.Stamp
import SecretRotation.Proofs.Calendar
import SecretRotation.Proofs.Instant.Line
import SecretRotation.Proofs.Result
import SecretRotation.Proofs.Text.Blank
import SecretRotation.Proofs.Text.Numeral

/-!
# Reading stamps back

A stamp that was written is read back as the start of the second that it was written for. Years of more than four digits
and years before year zero are written, but not read. What is read is an ordinary second or a second sixty, so that its own
stamp is never later than it is, and less than a second earlier.

## Main definitions

* `Instant.wholeSecond`: the start of the second that a clock shows.
* `Instant.FourDigitYear`, `Instant.Stampable`: the stamp of an instant can be read, in leap seconds or outside of them.

## Main results

* `Instant.parse?_format_whole`, `Instant.parse?_format_eq_none`: the stamps of years of four digits are read back, and no
  others.
* `Instant.eq_of_parse?_format`: whatever a written stamp is read as is the second that it was written for.
* `Instant.wholeSecond_le_of_parse?`, `Instant.since_wholeSecond_of_parse?`: what cutting off costs a stamp that was read.
-/

namespace SecretRotation

namespace Instant

open Text

variable {t : Instant}

/-- Digits of a fixed width are read off the front. -/
theorem digits?_padded {width n : Nat} (hwidth : 0 < width) (h : n < 10 ^ width) (rest : List Char) :
    digits? width (padded width n ++ rest) = some (n, rest) := by
  have hlength := length_padded hwidth h
  have htake : (padded width n ++ rest).take width = padded width n := by
    rw [List.take_append_of_le_length (by omega), List.take_of_length_le (by omega)]
  have hdrop : (padded width n ++ rest).drop width = rest := by
    rw [List.drop_append_of_le_length (by omega), List.drop_of_length_le (by omega), List.nil_append]
  rw [digits?, htake, hdrop, if_pos hlength, natural?_padded]
  rfl

theorem after?_cons (c : Char) (rest : List Char) : after? c (c :: rest) = some rest :=
  if_pos rfl

/-- The start of the second that a clock shows. A leap second is second sixty after second fifty-nine, and shows as the
next second after any other. -/
def wholeSecond (t : Instant) : Instant :=
  if t.inLeapSecond then
    if t.secondOfDay % 60 = 59 then ⟨t.seconds, Duration.perSecond, by decide⟩ else ofSeconds (t.seconds + 1)
  else ofSeconds t.seconds

theorem wholeSecond_of_ordinary (h : t.Ordinary) : t.wholeSecond = ofSeconds t.seconds := by
  rw [wholeSecond, not_inLeapSecond h, if_neg (by decide)]

/-- The clock reads the start of a second. -/
theorem ofClock?_ofDay (t : Instant) :
    ofClock? (Date.ofDay t.day) (t.secondOfDay.toNat / 3600) (t.secondOfDay.toNat / 60 % 60)
      (t.secondOfDay.toNat % 60 + t.nanos / Duration.perSecond) 0 0 = some t.wholeSecond := by
  have hday : t.day * perDay + t.secondOfDay = t.seconds := Int.ediv_mul_add_emod _ _
  have hsecond : 0 ≤ t.secondOfDay ∧ t.secondOfDay < 86400 := by
    simp only [secondOfDay, perDay]
    omega
  have hleap : t.nanos / Duration.perSecond ≤ 1 := by
    have := t.nanos_lt
    simp only [Duration.perSecond]
    omega
  have hclock : (Date.ofDay t.day).Valid ∧ t.secondOfDay.toNat / 3600 ≤ 23 ∧ t.secondOfDay.toNat / 60 % 60 ≤ 59 ∧
      t.secondOfDay.toNat % 60 + t.nanos / Duration.perSecond ≤ 60 := ⟨Date.valid_ofDay _, by omega, by omega, by omega⟩
  simp only [ofClock?, if_pos hclock, Date.toDay_ofDay]
  cases ht : t.inLeapSecond with
  | false =>
    have hnanos : t.nanos / Duration.perSecond = 0 := Nat.div_eq_of_lt (by simpa [inLeapSecond] using ht)
    simp only [hnanos, Nat.add_zero, wholeSecond, ht, if_neg (show ¬ t.secondOfDay.toNat % 60 = 60 by omega)]
    rw [dif_pos (by decide), Option.some.injEq]
    simp only [Bool.false_eq_true, if_false, ofSeconds, mk.injEq, and_true]
    omega
  | true =>
    have hnanos : t.nanos / Duration.perSecond = 1 := by
      have := nanos_of_inLeapSecond ht
      simp only [Duration.perSecond]
      omega
    simp only [hnanos, wholeSecond, ht]
    by_cases hlast : t.secondOfDay % 60 = 59
    · simp only [if_pos (show t.secondOfDay.toNat % 60 + 1 = 60 by omega), if_pos hlast]
      rw [dif_pos (by decide), Option.some.injEq]
      simp only [if_true, mk.injEq]
      exact ⟨by omega, by decide⟩
    · simp only [if_neg (show ¬ t.secondOfDay.toNat % 60 + 1 = 60 by omega), if_neg hlast]
      rw [dif_pos (by decide), Option.some.injEq]
      simp only [if_true, ofSeconds, mk.injEq, and_true]
      omega

/-- The year of an instant has four digits. -/
def FourDigitYear (t : Instant) : Prop := 0 ≤ (Date.ofDay t.day).year ∧ (Date.ofDay t.day).year ≤ 9999

/-- The stamps of years of four digits are read back. -/
theorem parseChars?_clockText (hyear : t.FourDigitYear) : parseChars? (t.clockText ++ ['Z']) = some t.wholeSecond := by
  obtain ⟨hmonth, hdayOfMonth⟩ := Date.ofDay_bounds t.day
  have hsecond : t.secondOfDay.toNat < 86400 := by
    simp only [secondOfDay, perDay]
    omega
  have hleap : t.nanos / Duration.perSecond ≤ 1 := by
    have := t.nanos_lt
    simp only [Duration.perSecond]
    omega
  have hdigits := hyear
  rw [FourDigitYear] at hdigits
  have htext : t.clockText ++ ['Z'] =
      padded 4 (Date.ofDay t.day).year.toNat ++ '-' :: (padded 2 (Date.ofDay t.day).month ++ '-' ::
        (padded 2 (Date.ofDay t.day).day ++ 'T' :: (padded 2 (t.secondOfDay.toNat / 3600) ++ ':' ::
          (padded 2 (t.secondOfDay.toNat / 60 % 60) ++ ':' ::
            (padded 2 (t.secondOfDay.toNat % 60 + t.nanos / Duration.perSecond) ++ ['Z']))))) := by
    have hyearText : yearText (Date.ofDay t.day).year = padded 4 (Date.ofDay t.day).year.toNat := if_pos hyear
    simp only [clockText, show t.seconds / perDay = t.day from rfl, hyearText, List.append_assoc,
      List.cons_append, List.nil_append]
  rw [htext, parseChars?]
  -- One step for each part of the pattern: what is read off the front, then the mark after it.
  refine (bind_of_eq_some (digits?_padded (by decide) (by omega) _)).trans ?_
  refine (bind_of_eq_some (after?_cons '-' _)).trans ?_
  refine (bind_of_eq_some (digits?_padded (by decide) (by omega) _)).trans ?_
  refine (bind_of_eq_some (after?_cons '-' _)).trans ?_
  refine (bind_of_eq_some (digits?_padded (by decide) (by omega) _)).trans ?_
  refine (bind_of_eq_some (show dateMark? _ = some _ from rfl)).trans ?_
  refine (bind_of_eq_some (digits?_padded (by decide) (by omega) _)).trans ?_
  refine (bind_of_eq_some (after?_cons ':' _)).trans ?_
  refine (bind_of_eq_some (digits?_padded (by decide) (by omega) _)).trans ?_
  refine (bind_of_eq_some (after?_cons ':' _)).trans ?_
  refine (bind_of_eq_some (digits?_padded (by decide) (by omega) _)).trans ?_
  refine (bind_of_eq_some (show fraction? ['Z'] = some _ from rfl)).trans ?_
  refine (bind_of_eq_some (show offset? _ ['Z'] = some _ from rfl)).trans ?_
  have hdate : (⟨((Date.ofDay t.day).year.toNat : Int), (Date.ofDay t.day).month, (Date.ofDay t.day).day⟩ : Date) =
      Date.ofDay t.day := by
    rw [Int.toNat_of_nonneg hyear.1]
  exact (if_pos rfl).trans (hdate ▸ ofClock?_ofDay t)

theorem parseChars?_of_not_isDigit {c : Char} (h : c.isDigit = false) (cs : List Char) : parseChars? (c :: cs) = none := by
  have hdigits : digits? 4 (c :: cs) = none := by
    simp only [digits?, List.take_succ_cons, natural?, List.isEmpty_cons, List.all_cons, h]
    split <;> rfl
  rw [parseChars?, hdigits]
  rfl

theorem exists_yearText_append (t : Instant) : ∃ rest, t.clockText = yearText (Date.ofDay t.day).year ++ rest := by
  simp only [clockText, List.append_assoc]
  exact ⟨_, rfl⟩

/-- A written stamp has no blanks at its ends. -/
theorem trim_clockText (t : Instant) : Text.trim (t.clockText ++ ['Z']) = t.clockText ++ ['Z'] := by
  have hback : ∀ c ∈ (t.clockText ++ ['Z']).reverse.head?, isBlank c = false := by
    rw [List.reverse_append]
    rintro _ ⟨⟩
    decide
  refine trim_eq_self ?_ hback
  obtain ⟨rest, htext⟩ := t.exists_yearText_append
  by_cases hyear : 0 ≤ (Date.ofDay t.day).year ∧ (Date.ofDay t.day).year ≤ 9999
  · obtain ⟨first, digits, hdigits⟩ := List.exists_cons_of_length_pos
      (show 0 < (padded 4 (Date.ofDay t.day).year.toNat).length by
        rw [length_padded (by decide) (by omega)]
        decide)
    have hfirst : first.isDigit = true := isDigit_of_mem_padded (hdigits ▸ List.mem_cons_self)
    rw [htext, yearText, if_pos hyear, hdigits, List.cons_append]
    rintro _ ⟨⟩
    exact isBlank_eq_false_of_isDigit hfirst
  · rw [htext, yearText, if_neg hyear, List.cons_append]
    rintro _ ⟨⟩
    split <;> decide

theorem format_ne_empty (t : Instant) : t.format ≠ "" := by
  intro h
  have hchars := congrArg String.toList h
  simp [format] at hchars

/-- The instant is outside leap seconds, in a year of four digits: its stamp can be read. -/
structure Stampable (t : Instant) : Prop where
  ordinary : t.Ordinary
  year : 0 ≤ (Date.ofDay t.day).year ∧ (Date.ofDay t.day).year ≤ 9999

theorem Stampable.ofSeconds (h : t.Stampable) : (ofSeconds t.seconds).Stampable := ⟨ordinary_ofSeconds _, h.year⟩

theorem Stampable.wholeSecond_eq (h : t.Stampable) : t.wholeSecond = Instant.ofSeconds t.seconds :=
  wholeSecond_of_ordinary h.ordinary

/-- The stamps of years of four digits are read back as the seconds that they show. -/
theorem parse?_format_whole (h : t.FourDigitYear) : parse? t.format = some t.wholeSecond := by
  rw [parse?, format, String.toList_ofList, trim_clockText, parseChars?_clockText h]

theorem parse?_format (h : t.Stampable) : parse? t.format = some (Instant.ofSeconds t.seconds) := by
  rw [parse?_format_whole h.year, h.wholeSecond_eq]

/-- The stamps of other years start with a sign. -/
theorem parse?_format_eq_none (h : ¬ (0 ≤ (Date.ofDay t.day).year ∧ (Date.ofDay t.day).year ≤ 9999)) :
    parse? t.format = none := by
  obtain ⟨rest, htext⟩ := t.exists_yearText_append
  rw [parse?, format, String.toList_ofList, trim_clockText, htext, yearText, if_neg h, List.cons_append, List.cons_append]
  exact parseChars?_of_not_isDigit (by split <;> decide) _

/-- Whatever a written stamp is read as is the second that it was written for. -/
theorem eq_of_parse?_format {u : Instant} (ht : t.Ordinary) (h : parse? t.format = some u) : u = ofSeconds t.seconds := by
  by_cases hyear : 0 ≤ (Date.ofDay t.day).year ∧ (Date.ofDay t.day).year ≤ 9999
  · rw [parse?_format ⟨ht, hyear⟩] at h
    exact (Option.some.inj h).symm
  · rw [parse?_format_eq_none hyear] at h
    cases h

/-! ## What can be read -/

theorem lt_of_fraction? {cs rest : List Char} {nanos : Nat} (h : fraction? cs = some (nanos, rest)) :
    nanos < Duration.perSecond := by
  unfold fraction? at h
  split at h
  · rename_i cs
    obtain ⟨n, hn, h⟩ := Option.bind_eq_some_iff.mp h
    cases h
    have hlength : ((cs.takeWhile Char.isDigit).take 9).length ≤ 9 := List.length_take_le _ _
    have hlt := lt_of_natural? hn
    calc
      n * Nat.pow 10 (9 - ((cs.takeWhile Char.isDigit).take 9).length)
        < 10 ^ ((cs.takeWhile Char.isDigit).take 9).length * 10 ^ (9 - ((cs.takeWhile Char.isDigit).take 9).length) :=
          Nat.mul_lt_mul_of_pos_right hlt (Nat.pow_pos (by decide))
      _ = 10 ^ 9 := by rw [← Nat.pow_add, Nat.add_sub_cancel' hlength]
  · cases h
    decide

/-- Offsets are whole minutes. -/
theorem mod_of_offset? {between : List Char → Option (List Char)} {cs rest : List Char} {offset : Int}
    (h : offset? between cs = some (offset, rest)) : offset % 60 = 0 := by
  unfold offset? at h
  split at h
  · cases h
    rfl
  · cases h
    rfl
  · simp only [Option.bind_eq_bind, Option.bind_eq_some_iff, Prod.exists] at h
    obtain ⟨sign, _, hsign, hours, _, -, _, -, minutes, _, -, h⟩ := h
    split at h
    · cases h
      have : sign = 1 ∨ sign = -1 := by
        unfold sign? at hsign
        split at hsign <;> cases hsign <;> decide
      rcases this with rfl | rfl <;> omega
    · cases h

/-- A clock is set to a leap second by second sixty only. -/
theorem secondOfDay_of_ofClock? {date : Date} {hour minute second nanos : Nat} {offset : Int}
    (h : ofClock? date hour minute second nanos offset = some t) (hnanos : nanos < Duration.perSecond)
    (hoffset : offset % 60 = 0) (ht : t.inLeapSecond = true) : t.secondOfDay % 60 = 59 := by
  rw [ofClock?] at h
  by_cases hclock : date.Valid ∧ hour ≤ 23 ∧ minute ≤ 59 ∧ second ≤ 60
  · rw [if_pos hclock] at h
    by_cases hsixty : second = 60
    · simp only [if_pos hsixty] at h
      rw [dif_pos (by simp only [Duration.perSecond] at *; omega)] at h
      cases h
      simp only [secondOfDay, perDay, hsixty]
      omega
    · simp only [if_neg hsixty] at h
      rw [dif_pos (by simp only [Duration.perSecond] at *; omega)] at h
      cases h
      simp only [inLeapSecond, decide_eq_true_eq] at ht
      omega
  · rw [if_neg hclock] at h
    cases h

/-- A clock that is read in a leap second shows second sixty. -/
theorem secondOfDay_of_parse? {text : String} (h : parse? text = some t) (ht : t.inLeapSecond = true) :
    t.secondOfDay % 60 = 59 := by
  rw [parse?, parseChars?] at h
  simp only [Option.bind_eq_bind, Option.bind_eq_some_iff, Prod.exists] at h
  obtain ⟨year, _, -, _, -, month, _, -, _, -, day, _, -, _, -, hour, _, -, _, -, minute, _, -, _, -, second, _, -, nanos, _,
    hfraction, offset, _, hoffset, h⟩ := h
  split at h
  · exact secondOfDay_of_ofClock? h (lt_of_fraction? hfraction) (mod_of_offset? hoffset) ht
  · cases h

/-- A stamp that was read is not earlier than its second, which is second sixty in leap seconds. -/
theorem wholeSecond_of_parse? {text : String} (h : parse? text = some t) :
    t.wholeSecond.seconds = t.seconds ∧ t.wholeSecond.nanos ≤ t.nanos ∧ t.nanos < t.wholeSecond.nanos + Duration.perSecond := by
  rw [wholeSecond]
  cases ht : t.inLeapSecond with
  | false =>
    refine ⟨rfl, Nat.zero_le _, ?_⟩
    simpa [inLeapSecond, ofSeconds] using ht
  | true =>
    rw [if_pos rfl, if_pos (secondOfDay_of_parse? h ht)]
    have hnanos := nanos_of_inLeapSecond ht
    exact ⟨rfl, hnanos.1, by simp only [Duration.perSecond]; omega⟩

theorem wholeSecond_le_of_parse? {text : String} (h : parse? text = some t) : t.wholeSecond ≤ t := by
  obtain ⟨hseconds, hnanos, -⟩ := wholeSecond_of_parse? h
  exact le_def.mpr (.inr ⟨hseconds, hnanos⟩)

/-- Less than a second is cut off. -/
theorem since_wholeSecond_of_parse? {text : String} (h : parse? text = some t) :
    t.since t.wholeSecond < Duration.perSecond := by
  obtain ⟨hseconds, hnanos, hcut⟩ := wholeSecond_of_parse? h
  have hday : t.wholeSecond.secondOfDay = t.secondOfDay := by rw [secondOfDay, hseconds, secondOfDay]
  have hleap : leapCorrection t t.wholeSecond = 0 := by
    rw [leapCorrection, hday]
    simp
  rw [since, hleap, hseconds]
  omega

end Instant

end SecretRotation
