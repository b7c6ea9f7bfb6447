import SecretRotation.Proofs.Zone.Clock
import SecretRotation.Zone.Table

/-!
# How far clocks are from universal time

No clock of a known zone is ever a whole day ahead of universal time or behind it. The offsets of a zone are sums of a
standard time and a saving, so the eras of all histories are all there is to look at.

## Main definitions

* `Zone.Bounded`: the clocks of a zone are always less than a day from universal time.

## Main results

* `Zone.bounded_of_find?`: known zones are bounded.
-/

namespace SecretRotation

/-- An offset of less than a day, either way. -/
def OffsetChange.WithinDay (offset : Int) : Prop := -86400 < offset ∧ offset < 86400

instance (offset : Int) : Decidable (OffsetChange.WithinDay offset) := inferInstanceAs (Decidable (_ ∧ _))

open OffsetChange

/-- The clocks of a zone are always less than a day from universal time. -/
def Zone.Bounded (z : Zone) : Prop := ∀ t, WithinDay (z.offsetAt t)

/-! ## Savings and eras -/

/-- All that is ever added to standard time. -/
def Saving.amounts : Saving → List Int
  | off => [0]
  | on minutes => [minutes * 60]
  | rules yearly => 0 :: yearly.map fun r => r.saving * 60

theorem Saving.before_mem_amounts (s : Saving) : s.before ∈ s.amounts := by
  cases s <;> simp [before, amounts]

theorem SavingSwitch.mem_insert {s t : SavingSwitch} {switches : List SavingSwitch} :
    t ∈ SavingSwitch.insert s switches ↔ t = s ∨ t ∈ switches := by
  induction switches with
  | nil => simp [SavingSwitch.insert]
  | cons u rest ih =>
    rw [SavingSwitch.insert]
    split
    · simp
    · simp only [List.mem_cons, ih]
      exact or_left_comm

theorem SavingSwitch.mem_foldr_insert {s : SavingSwitch} {switches : List SavingSwitch} :
    s ∈ switches.foldr SavingSwitch.insert [] ↔ s ∈ switches := by
  induction switches with
  | nil => simp
  | cons t rest ih => rw [List.foldr_cons, mem_insert, ih, List.mem_cons]

theorem SavingRule.exists_of_mem_switchesIn {rules : List SavingRule} {year : Nat} {s : SavingSwitch}
    (h : s ∈ switchesIn rules year) : ∃ r ∈ rules, s = switchIn year r := by
  obtain ⟨r, hr, rfl⟩ := List.mem_map.mp (SavingSwitch.mem_foldr_insert.mp h)
  exact ⟨r, (List.mem_filter.mp hr).1, rfl⟩

theorem Saving.saving_mem_amounts {s : Saving} {switch : SavingSwitch} (h : switch ∈ s.switches) :
    switch.saving ∈ s.amounts := by
  cases s with
  | off => simp [switches] at h
  | on minutes => simp [switches] at h
  | rules yearly =>
    obtain ⟨year, -, hyear⟩ := List.mem_flatMap.mp h
    obtain ⟨r, hr, rfl⟩ := SavingRule.exists_of_mem_switchesIn hyear
    exact List.mem_cons_of_mem _ (List.mem_map.mpr ⟨r, hr, rfl⟩)

/-- All offsets of an era are shorter than a day. -/
def Era.Moderate (e : Era) : Prop := ∀ amount ∈ e.saving.amounts, WithinDay (e.offset + amount)

instance (e : Era) : Decidable e.Moderate := inferInstanceAs (Decidable (∀ amount ∈ _, _))

theorem Era.withinDay_of_mem_follow {offset : Int} {stop : Option Moment} {switches : List SavingSwitch}
    (h : ∀ s ∈ switches, WithinDay (offset + s.saving)) :
    ∀ saving, ∀ c ∈ follow offset stop saving switches, WithinDay c.offset := by
  induction switches with
  | nil => simp [follow]
  | cons s rest ih =>
    intro saving c hc
    rw [follow] at hc
    split at hc
    · simp at hc
    · rcases List.mem_cons.mp hc with rfl | hc
      · exact h s List.mem_cons_self
      · exact ih (fun t ht => h t (List.mem_cons_of_mem _ ht)) _ c hc

variable {e : Era}

theorem Era.Moderate.initial (h : e.Moderate) : WithinDay e.initial :=
  h _ e.saving.before_mem_amounts

theorem Era.Moderate.switched (h : e.Moderate) (stop : Option Moment) :
    ∀ c ∈ e.switched stop, WithinDay c.offset :=
  withinDay_of_mem_follow (fun _ hs => h _ (Saving.saving_mem_amounts hs)) _

theorem Era.withinDay_of_mem_enter {since : Int} {changes : List OffsetChange}
    (h : ∀ c ∈ changes, WithinDay c.offset) :
    ∀ {offset}, WithinDay offset → ∀ c ∈ enter since offset changes, WithinDay c.offset := by
  induction changes with
  | nil =>
    intro offset ho c hc
    obtain rfl : c = ⟨since, offset⟩ := by simpa [enter] using hc
    exact ho
  | cons d rest ih =>
    intro offset ho c hc
    have hd := h d List.mem_cons_self
    rw [enter] at hc
    split at hc
    · exact ih (fun b hb => h b (List.mem_cons_of_mem _ hb)) hd c hc
    · rcases List.mem_cons.mp hc with rfl | hc
      · exact ho
      · exact h c hc

/-! ## Histories and zones -/

/-- The eras of a history. -/
def History.eras : History → List Era
  | forever era => [era]
  | .until era _ rest => era :: eras rest

theorem History.withinDay_of_mem_changesSince {h : History} (hm : ∀ e ∈ h.eras, e.Moderate) :
    ∀ since, ∀ c ∈ h.changesSince since, WithinDay c.offset := by
  induction h with
  | forever era =>
    intro since
    have he := hm era (by simp [eras])
    exact Era.withinDay_of_mem_enter (he.switched none) he.initial
  | «until» era stop rest ih =>
    intro since c hc
    have he := hm era (by simp [eras])
    rw [changesSince] at hc
    rcases List.mem_append.mp hc with hc | hc
    · exact Era.withinDay_of_mem_enter (he.switched _) he.initial c hc
    · exact ih (fun e he => hm e (by simp [eras, he])) _ c hc

theorem History.withinDay_of_mem_changes {h : History} (hm : ∀ e ∈ h.eras, e.Moderate) :
    ∀ c ∈ h.changes, WithinDay c.offset := by
  cases h with
  | forever era => exact (hm era (by simp [eras])).switched none
  | «until» era stop rest =>
    intro c hc
    rcases List.mem_append.mp hc with hc | hc
    · exact (hm era (by simp [eras])).switched _ c hc
    · exact withinDay_of_mem_changesSince (fun e he => hm e (by simp [eras, he])) _ c hc

theorem OffsetChange.withinDay_of_mem_settle {changes : List OffsetChange}
    (h : ∀ c ∈ changes, WithinDay c.offset) :
    ∀ {before : Int} {c : OffsetChange}, WithinDay c.offset → ∀ d ∈ settle before c changes, WithinDay d.offset := by
  induction changes with
  | nil =>
    intro before c hc d hd
    rw [settle] at hd
    split at hd
    · simp at hd
    · obtain rfl : d = c := by simpa using hd
      exact hc
  | cons a rest ih =>
    have ha := h a List.mem_cons_self
    have ih := fun {before c} => @ih (fun b hb => h b (List.mem_cons_of_mem _ hb)) before c
    intro before c hc d hd
    rw [settle] at hd
    split at hd
    · exact ih (c := ⟨c.start, a.offset⟩) ha d hd
    · split at hd
      · exact ih ha d hd
      · rcases List.mem_cons.mp hd with rfl | hd
        · exact hc
        · exact ih ha d hd

theorem Zone.withinDay_offsetAmong {t : Int} {changes : List OffsetChange} (h : ∀ c ∈ changes, WithinDay c.offset) :
    ∀ {offset}, WithinDay offset → WithinDay (offsetAmong t offset changes) := by
  induction changes with
  | nil => exact id
  | cons c rest ih =>
    intro offset ho
    rw [offsetAmong_cons]
    split
    · exact ho
    · exact ih (fun d hd => h d (List.mem_cons_of_mem _ hd)) (h c List.mem_cons_self)

theorem History.bounded_zone {h : History} (hm : ∀ e ∈ h.eras, e.Moderate) (name : String) :
    (h.zone name).Bounded := by
  intro t
  have hchanges := withinDay_of_mem_changes hm
  refine Zone.withinDay_offsetAmong ?_ ?_
  · show ∀ c ∈ settled h.initial h.changes, _
    cases hc : h.changes with
    | nil => simp [settled]
    | cons c rest =>
      rw [hc] at hchanges
      exact withinDay_of_mem_settle (fun d hd => hchanges d (List.mem_cons_of_mem _ hd)) (hchanges c List.mem_cons_self)
  · cases h with
    | forever era => exact (hm era (by simp [eras])).initial
    | «until» era stop rest => exact (hm era (by simp [eras])).initial

/-- In all known histories standard time and saving together stay below a day. -/
theorem History.moderate_of_mem_table : ∀ entry ∈ table, ∀ e ∈ entry.2.eras, e.Moderate := by
  decide +kernel

theorem Zone.bounded_of_find? {name : String} {z : Zone} (h : Zone.find? name = some z) : z.Bounded := by
  obtain ⟨history, hh, rfl⟩ := Option.map_eq_some_iff.mp h
  obtain ⟨l₁, l₂, heq, -⟩ := List.lookup_eq_some_iff.mp hh
  apply History.bounded_zone
  exact History.moderate_of_mem_table (properName name, history) (by rw [heq]; simp)

end SecretRotation
