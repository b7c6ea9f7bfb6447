import SecretRotation.Proofs.Cycle.Due
import SecretRotation.Proofs.Reconcile.Run

/-!
# The pace of replacements

A value that a cycle has stored has a stamp of its own, and no later cycle touches it before the value is replaced. So two
writes of a field, of which the second is a replacement, are never closer than its interval, but for the fraction of a second
that the stamp does not show. It does not matter whether clocks go back in between.

## Main definitions

* `ManagedObject.WrittenAt`: a field was written in some second.
* `Engine.Paced`: replacements come at intervals, and these are not too short.

## Main results

* `Engine.Writes.writtenAt`, `Engine.Writes.writtenAt_of_not_written`: what a cycle does to the stamp of a field.
* `Engine.paced_of_holds`: all runs are paced.
-/

namespace SecretRotation

/-- A listed field has a value, and a stamp of its own that shows when it was written. -/
structure ManagedObject.WrittenAt (o : ManagedObject) (field : String) (t : Instant) : Prop where
  listed : field ∈ o.fields
  hasValue : o.hasValue field = true
  own : o.fieldStamp? field = some (.ofSeconds t.seconds)

namespace Engine

variable {g : Engine} {key : ObjectKey} {s : DryRun} {o o' : ManagedObject} {t : Turn} {field : String}
  {reports : List FieldReport}

theorem Writes.writtenAt (h : g.Writes o t reports o') (hnow : t.now.Stampable) {r : FieldReport} (hr : r ∈ reports)
    (hwritten : r.isWritten = true) : o'.WrittenAt r.field t.now := by
  have hfield : r.field ∈ o.fields := h.fields ▸ List.mem_map_of_mem hr
  refine ⟨h.fields_eq ▸ hfield, h.hasValue hfield, ?_⟩
  rw [← hnow.wholeSecond_eq]
  exact ManagedObject.fieldStamp?_of_written h.annotations hnow.year (mem_written_iff.mpr ⟨r, hr, hwritten, rfl⟩)

/-- A cycle that does not write the field leaves its own stamp alone. -/
theorem Writes.writtenAt_of_not_written (h : g.Writes o t reports o')
    (hspared : ∀ r ∈ reports, r.isWritten = true → r.outcome.field ≠ field) {first : Instant}
    (hfirst : o.WrittenAt field first) : o'.WrittenAt field first := by
  refine ⟨h.fields_eq ▸ hfirst.listed, h.hasValue hfirst.listed, ?_⟩
  have hnot : field ∉ Evaluation.written reports := by
    intro hmem
    obtain ⟨r, hr, hwritten, hname⟩ := mem_written_iff.mp hmem
    exact hspared r hr hwritten hname
  exact ManagedObject.fieldStamp?_of_own h.annotations hnot hfirst.own

/-- A replacement comes no sooner after the write than the interval of the field, which is not too short. -/
theorem exists_interval_of_writtenAt {first now : Instant} (h : o.WrittenAt field first) (hfirst : first.Ordinary)
    (hnow : now.Ordinary) (hrotate : g.decide o field now = .rotate) :
    ∃ interval, (g.spec o field).interval = some interval ∧ g.config.rotation.minimum ≤ interval ∧
      (interval.nanoseconds : Int) - Duration.perSecond < now.since first := by
  obtain ⟨-, -, interval, baseline, hinterval, hshort, hbaseline, hold⟩ := decide_eq_rotate_iff.mp hrotate
  rw [ManagedObject.baseline?_of_own h.own] at hbaseline
  obtain rfl := Option.some.inj hbaseline
  refine ⟨interval, hinterval, Nat.not_lt.mp hshort, ?_⟩
  have hcut := Instant.count_ofSeconds_seconds hfirst
  have hpositive := interval_ne_zero hinterval
  rw [Instant.elapsed_lt_iff hnow (Instant.ordinary_ofSeconds _)] at hold
  rw [Instant.since_eq_count hnow hfirst]
  omega

/-- Replacements come at intervals, and these are not too short. -/
structure Paced (g : Engine) (key : ObjectKey) (s : DryRun) (o : ManagedObject) : Prop where
  spaced : ∀ (before between : List Turn) (first second : Turn) (f f' : FieldOutcome), first.now.Stampable →
    second.now.Ordinary → g.Stores key (g.run key s before) first f →
    g.Spares key (·.field = f.field) (g.run key s (before ++ [first])) between →
    g.Stores key (g.run key s (before ++ first :: between)) second f' → f'.field = f.field → f'.decision = .rotate →
      ∃ interval, (g.spec o f.field).interval = some interval ∧ g.config.rotation.minimum ≤ interval ∧
        (interval.nanoseconds : Int) - Duration.perSecond < second.now.since first.now
  refused : ∀ (turns : List Turn) (t : Turn) (f : FieldOutcome) (interval : Duration),
    (g.spec o f.field).interval = some interval → interval < g.config.rotation.minimum →
      g.Tells key (g.run key s turns) t f → f.decision ≠ .rotate

/-- **The pace of replacements.** Whatever the clocks of a run read and whichever of its updates fail, a field is not replaced
sooner after a write of it than its interval tells, but for the fraction of a second that its stamp does not show, and never
for an interval that is too short. -/
theorem paced_of_holds (hheld : s.Holds key o) : g.Paced key s o := by
  refine ⟨fun before between first second f f' hfirst hsecond hstores hspares hagain hsame hrotate => ?_,
    fun turns t f interval hinterval hshort htold hrotate => ?_⟩
  · obtain ⟨o₁, hheld₁, hsettings₁⟩ := g.exists_holds_run_sameSettings hheld before
    -- The first write gives the field a stamp of its own.
    obtain ⟨-, hnone⟩ | ⟨reports, o₂, hwrites, hheld₂, hmaterial⟩ := g.turn_cases hheld₁ first
    · exact absurd hstores (hnone f)
    obtain ⟨r, hr, hwritten, rfl⟩ := (hmaterial f).mp hstores
    have hrun : g.run key s (before ++ [first]) = (g.turn key (g.run key s before) first).2 := run_append s before [first]
    rw [hrun] at hspares
    -- It has that stamp until it is written again.
    obtain ⟨o₃, hheld₃, hsettings₃, hwrittenAt⟩ := exists_holds_run
      (P := fun o' => o.SameSettings o' ∧ o'.WrittenAt r.outcome.field first.now) hheld₂
      ⟨hsettings₁.trans hwrites.sameSettings, hwrites.writtenAt hfirst hr hwritten⟩ hspares
      fun _ _ _ _ _ hlater hspared ⟨hsettings, hkept⟩ =>
        ⟨hsettings.trans hlater.sameSettings, hlater.writtenAt_of_not_written hspared hkept⟩
    have hrun' : g.run key s (before ++ first :: between) =
        g.run key (g.turn key (g.run key s before) first).2 between := run_append s before (first :: between)
    rw [hrun'] at hagain
    have hdecision := (hagain.decision_eq hheld₃).2
    rw [hrotate, hsame] at hdecision
    have hspec : g.spec o₃ r.outcome.field = g.spec o r.outcome.field := hsettings₃.resolve_eq _ _
    exact hspec ▸ exists_interval_of_writtenAt hwrittenAt hfirst.ordinary hsecond hdecision.symm
  · obtain ⟨o', hheld', hsettings⟩ := g.exists_holds_run_sameSettings hheld turns
    have hdecision := (htold.decision_eq hheld').2
    rw [hrotate] at hdecision
    obtain ⟨-, -, interval', -, hinterval', hlong, -⟩ := decide_eq_rotate_iff.mp hdecision.symm
    have hspec : g.spec o' f.field = g.spec o f.field := hsettings.resolve_eq _ _
    rw [hspec, hinterval] at hinterval'
    exact hlong (Option.some.inj hinterval' ▸ hshort)

/-- The hourly password in a store, before it was ever written. -/
def atStart : DryRun := { DryRun.start (.ofSeconds 0) with store := Store.empty.insert hourly }

/-- A password that is written at the start of 1970 is replaced an hour later, as its interval allows. -/
theorem paced_of_holds_hourly :
    ungated.Stores hourly.key (ungated.run hourly.key atStart [.plain 0]) (.plain 3600) ⟨"password", .rotate, none⟩ ∧
      ∃ interval, (ungated.spec (Store.empty.put hourly).1 "password").interval = some interval ∧
        ungated.config.rotation.minimum ≤ interval ∧
        (interval.nanoseconds : Int) - Duration.perSecond < (Instant.ofSeconds 3600).since (.ofSeconds 0) := by
  have hheld : atStart.Holds hourly.key (Store.empty.put hourly).1 :=
    DryRun.holds_insert (DryRun.start (.ofSeconds 0)) hourly
  have hfirst : ungated.Stores hourly.key atStart (.plain 0) ⟨"password", .generate, none⟩ :=
    ⟨⟨some (.ofSeconds 3600), true, [⟨"password", .generate, none⟩]⟩, by decide +kernel, rfl, by simp, rfl, rfl⟩
  have hsecond : ungated.Stores hourly.key (ungated.run hourly.key atStart [.plain 0]) (.plain 3600)
      ⟨"password", .rotate, none⟩ :=
    ⟨⟨some (.ofSeconds 3600), true, [⟨"password", .rotate, none⟩]⟩, by decide +kernel, rfl, by simp, rfl, rfl⟩
  have hplain : (Instant.ofSeconds 0).Stampable := ⟨Instant.ordinary_ofSeconds 0, by decide +kernel⟩
  have hspaced := (paced_of_holds hheld).spaced [] [] (.plain 0) (.plain 3600) ⟨"password", .generate, none⟩
    ⟨"password", .rotate, none⟩ hplain (Instant.ordinary_ofSeconds 3600) hfirst trivial hsecond rfl rfl
  exact ⟨hsecond, hspaced⟩

end Engine

end SecretRotation
