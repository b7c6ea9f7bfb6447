import SecretRotation.Proofs.Cycle.Due
import SecretRotation.Proofs.Reconcile.Run

/-!
# No due replacement is forgotten

A value that is due, and that was not replaced because the gate was shut or because there was no material, stays due through
any further cycles until one of them has stored a new value. That other fields are written in between, and that the stamp of
the object moves with them, changes nothing about it.

## Main results

* `Engine.Writes.dueFrom`: a cycle that writes other fields leaves the field due.
* `Engine.due_rotation_kept`: the field is due in all later cycles.
-/

namespace SecretRotation.Engine

variable {g : Engine} {key : ObjectKey} {s : DryRun} {o o' : ManagedObject} {t : Turn} {f : FieldOutcome} {field : String}

/-- The field is replaced. -/
def Rotates (field : String) (f : FieldOutcome) : Prop := f.field = field ∧ f.decision = .rotate

/-- A cycle that writes other fields leaves the field due. -/
theorem Writes.dueFrom {reports : List FieldReport} {due : Instant} (h : g.Writes o t reports o')
    (hspared : ∀ r ∈ reports, r.isWritten = true → ¬ Rotates field r.outcome) (hstamps : o.PlainStamps)
    (hfield : field ∈ o.fields) (hdue : g.DueFrom o field due) : g.DueFrom o' field due := by
  refine hdue.of_stamped h.annotations hfield (fun hmem => ?_) (h.hasValue hfield) (hstamps.canPin field)
  -- Written fields were without a value or are replaced, and this one is neither.
  obtain ⟨r, hr, hwritten, rfl⟩ := mem_written_iff.mp hmem
  rcases (h.reported r hr).generate_or_rotate hwritten with ⟨-, hempty⟩ | ⟨hrotate, -⟩
  · rw [hdue.hasValue] at hempty
    cases hempty
  · exact hspared r hr hwritten ⟨rfl, hrotate⟩

/-- **No due replacement is forgotten.** If a field is due in some cycle of a run, then it is due in all later ones as long as
no cycle has stored a replacement of it, the one that does so included. -/
theorem due_rotation_kept (before between : List Turn) (later : Turn) (hheld : s.Holds key o) (hstamps : o.PlainStamps)
    (hclock : ∀ u ∈ before ++ t :: between ++ [later], u.now.Stampable) (hle : t.now ≤ later.now)
    (htold : g.Tells key (g.run key s before) t f) (hdue : f.decision.IsDue)
    (hspares : g.Spares key (Rotates f.field) (g.run key s before) (t :: between)) :
    ∃ o', (g.run key s (before ++ t :: between)).Holds key o' ∧ f.field ∈ o'.fields ∧
      (g.decide o' f.field later.now).IsDue ∧
      ∀ f', g.Tells key (g.run key s (before ++ t :: between)) later f' → f'.field = f.field → f'.decision.IsDue := by
  have hnow : ∀ u, u ∈ before ∨ u ∈ t :: between → u.now.Stampable := fun u hu =>
    hclock u (List.mem_append_left _ (List.mem_append.mpr hu))
  -- All stamps can be read when the field is due, which its baseline then shows.
  obtain ⟨o₁, hheld₁, hstamps₁⟩ := exists_holds_run (P := ManagedObject.PlainStamps) hheld hstamps
    (g.spares_nothing key s before)
    fun o u reports o' hu hwrites _ hplain => hplain.of_stamped hwrites.annotations (hnow u (.inl hu))
  obtain ⟨hfield, hdecision⟩ := htold.decision_eq hheld₁
  have hfrom : g.DueFrom o₁ f.field t.now :=
    dueFrom_of_isDue (hdecision ▸ hdue) (hnow t (.inr List.mem_cons_self)).ordinary
      fun u hu => (hstamps₁.baseline hfield hu).ordinary
  -- From then on every cycle keeps the field due.
  obtain ⟨o', hheld', -, hfield', hfrom'⟩ := exists_holds_run
    (P := fun o => o.PlainStamps ∧ f.field ∈ o.fields ∧ g.DueFrom o f.field t.now) hheld₁ ⟨hstamps₁, hfield, hfrom⟩ hspares
    fun o u reports o' hu hwrites hspared ⟨hplain, hlisted, hdue⟩ =>
      ⟨hplain.of_stamped hwrites.annotations (hnow u (.inr hu)), hwrites.fields_eq ▸ hlisted,
        hwrites.dueFrom hspared hplain hlisted hdue⟩
  rw [← run_append] at hheld'
  have hlater : (g.decide o' f.field later.now).IsDue :=
    hfrom'.isDue_decide (hnow t (.inr List.mem_cons_self)).ordinary (hclock later (by simp)).ordinary hle
  refine ⟨o', hheld', hfield', hlater, fun f' hf' hsame => ?_⟩
  rw [(hf'.decision_eq hheld').2, hsame]
  exact hlater

/-- A gate that opens on Sundays. -/
def gated : Engine := ⟨{ (default : EngineConfig) with gate := ⟨true, [Gate.abidjanSunday], by simp⟩ }, .standard "x"⟩

/-- The object in a store, on the first Thursday of 1970. -/
def onThursday : DryRun := { DryRun.start (.ofSeconds 0) with store := Store.empty.insert passwordAndToken }

theorem holds_onThursday : onThursday.Holds passwordAndToken.key (Store.empty.put passwordAndToken).1 :=
  DryRun.holds_insert (DryRun.start (.ofSeconds 0)) passwordAndToken

theorem stampable_of_mem : ∀ second ∈ [0, 43200, 45000], (Instant.ofSeconds second).Stampable := by
  intro second hsecond
  refine ⟨Instant.ordinary_ofSeconds second, ?_⟩
  revert hsecond second
  decide +kernel

theorem plainStamps_onThursday : (Store.empty.put passwordAndToken).1.PlainStamps := by
  have hshared : (Store.empty.put passwordAndToken).1.stamp? = some (.ofSeconds 0) := by decide +kernel
  have hown : ∀ field ∈ (Store.empty.put passwordAndToken).1.fields,
      (Store.empty.put passwordAndToken).1.fieldStamp? field = none := by
    decide +kernel
  refine ⟨fun t ht => ?_, fun field hfield t ht => by simp [hown field hfield] at ht⟩
  rw [hshared] at ht
  exact Option.some.inj ht ▸ stampable_of_mem 0 (by simp)

/-- At noon the password is told to wait for Sunday. -/
theorem tells_onThursday : gated.Tells passwordAndToken.key onThursday (.plain 43200)
    ⟨"password", .defer (.ofSeconds 223200), none⟩ := by
  have heval : ∃ done ∈
      (gated.evaluate (Store.empty.put passwordAndToken).1 (.ofSeconds 43200) ⟨fun _ => 0, 0⟩).toOption,
      ⟨"password", .defer (.ofSeconds 223200), none⟩ ∈ done.1.outcomes := by
    decide +kernel
  obtain ⟨done, hdone, hmem⟩ := heval
  exact ⟨_, done.1, done.2, holds_onThursday.found, ⟨by decide +kernel, eq_ok_of_mem_toOption hdone⟩, hmem⟩

/-- The password waits for Sunday at noon. The token is filled then, so that the stamp of the object moves, and half an hour
later the password is still due. -/
theorem due_rotation_kept_abidjan :
    ∃ o', (gated.run passwordAndToken.key onThursday [.plain 43200]).Holds passwordAndToken.key o' ∧
      o'.stamp? = some (.ofSeconds 43200) ∧ (gated.decide o' "password" (.ofSeconds 45000)).IsDue := by
  -- The only cycle so far has told the password to wait, and so it has not replaced it.
  have hspares : gated.Spares passwordAndToken.key (Rotates "password") onThursday [.plain 43200] := by
    refine ⟨fun f hf hrotates => ?_, trivial⟩
    have hdecision := (hf.decision_eq holds_onThursday).2
    rw [hrotates.1, hrotates.2] at hdecision
    exact absurd (hdecision.trans (tells_onThursday.decision_eq holds_onThursday).2.symm) (by simp)
  obtain ⟨o', hheld, -, hdue, -⟩ := due_rotation_kept [] [] (.plain 45000) holds_onThursday plainStamps_onThursday
    (fun u hu => by
      obtain rfl | rfl : u = .plain 43200 ∨ u = .plain 45000 := by simpa using hu
      · exact stampable_of_mem 43200 (by simp)
      · exact stampable_of_mem 45000 (by simp))
    (by decide) tells_onThursday (.inr ⟨_, rfl⟩) hspares
  have hmoved : ∀ o' ∈ (gated.run passwordAndToken.key onThursday [.plain 43200]).store.get passwordAndToken.key,
      o'.stamp? = some (.ofSeconds 43200) := by
    decide +kernel
  exact ⟨o', hheld, hmoved o' hheld.found, hdue⟩

end SecretRotation.Engine
