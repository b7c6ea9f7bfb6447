import SecretRotation.Proofs.Cycle.Entries

/-!
# Runs of cycles

Cycles over one object follow one another, each over what the last one has left in the store. Clocks may go back and
updates may fail in between; nobody else writes. A cycle that breaks down leaves the store alone.

## Main definitions

* `Turn`: what a cycle of a run depends on besides the store.
* `Engine.turn`, `Engine.run`: one cycle of a run, and all of them.
* `Engine.Tells`, `Engine.Stores`: a cycle comes to an outcome for a field, and it stores the material of one.
* `Engine.Spares`: no cycle of a run stores material of some kind.
* `DryRun.Holds`: the object that a run is about.
* `Engine.Writes`: an object takes the place of another one after a cycle.

## Main results

* `Engine.turn_cases`: after a cycle the object is as it was, or as the cycle has written it.
* `Engine.exists_holds_run`: what each cycle that writes preserves, a whole run preserves.
-/

namespace SecretRotation

/-- What a cycle of a run depends on besides the store: the time, the entropy, and the failure of its update, if that is to
fail. -/
structure Turn where
  now : Instant
  entropy : Entropy
  failure : Option StoreError

/-- A cycle at a second of 1970 that nothing disturbs. -/
def Turn.plain (second : Int) : Turn := ⟨.ofSeconds second, ⟨fun _ => 0, 0⟩, none⟩

/-- The place of a run when the turn comes. -/
def Turn.place (t : Turn) (s : DryRun) : DryRun :=
  { s with now := t.now, store := { s.store with nextFailure := t.failure } }

/-- The object under a key. -/
structure DryRun.Holds (s : DryRun) (key : ObjectKey) (o : ManagedObject) : Prop where
  found : s.store.get key = some o
  keyed : o.key = key

/-- An object is under its key once it has been put there. -/
theorem DryRun.holds_insert (s : DryRun) (o : ManagedObject) :
    DryRun.Holds { s with store := s.store.insert o } o.key (s.store.put o).1 :=
  ⟨if_pos rfl, rfl⟩

namespace Engine

variable {g : Engine} {key : ObjectKey} {s : DryRun} {o o' : ManagedObject} {t : Turn} {f : FieldOutcome}

/-- One cycle of a run: its answer, unless it breaks down, and the place that it leaves behind. -/
def turn (g : Engine) (key : ObjectKey) (s : DryRun) (t : Turn) :
    Option (Except ReconcileError ReconcileOutcome) × DryRun :=
  if g.reconcileBreaksDown DryRun.backend key (t.place s) then (none, t.place s)
  else
    let (answer, _, after) := g.reconcile DryRun.backend key t.entropy (t.place s)
    (some answer, after)

/-- Cycles over the object under a key, one after the other. -/
def run (g : Engine) (key : ObjectKey) (s : DryRun) (turns : List Turn) : DryRun :=
  turns.foldl (fun s t => (g.turn key s t).2) s

/-- A cycle comes to an outcome, whether or not its update goes through. -/
def Tells (g : Engine) (key : ObjectKey) (s : DryRun) (t : Turn) (f : FieldOutcome) : Prop :=
  ∃ o v rest, s.store.get key = some o ∧ g.Ends o t.now t.entropy (.ok (v, rest)) ∧ f ∈ v.outcomes

/-- A cycle stores the material of an outcome. -/
def Stores (g : Engine) (key : ObjectKey) (s : DryRun) (t : Turn) (f : FieldOutcome) : Prop :=
  ∃ outcome, (g.turn key s t).1 = some (.ok outcome) ∧ outcome.updated = true ∧ f ∈ outcome.fields ∧ f.GotMaterial

/-- No cycle stores the material of an outcome of some kind. -/
def Spares (g : Engine) (key : ObjectKey) (kind : FieldOutcome → Prop) : DryRun → List Turn → Prop
  | _, [] => True
  | s, t :: turns => (∀ f, g.Stores key s t f → ¬ kind f) ∧ Spares g key kind (g.turn key s t).2 turns

/-- After a cycle with some reports an object takes the place of the one that was read. -/
structure Writes (g : Engine) (o : ManagedObject) (t : Turn) (reports : List FieldReport) (o' : ManagedObject) : Prop where
  fields : reports.map FieldReport.field = o.fields
  reported : ∀ r ∈ reports, g.Reported o t.now r
  annotations : o'.annotations = o.stamped o.fields (Evaluation.written reports) t.now
  data : o'.data = Evaluation.entries o.data reports

namespace Writes

variable {reports : List FieldReport} (h : g.Writes o t reports o')

include h

theorem sameSettings : o.SameSettings o' := ManagedObject.sameSettings_of_stamped h.annotations

theorem fields_eq : o'.fields = o.fields := h.sameSettings.fields_eq

theorem spec_eq (field : String) : g.spec o' field = g.spec o field := h.sameSettings.resolve_eq _ _

theorem exists_report {field : String} (hfield : field ∈ o.fields) : ∃ r ∈ reports, r.field = field := by
  rw [← h.fields] at hfield
  exact List.mem_map.mp hfield

theorem hasValue {field : String} (hfield : field ∈ o.fields) : o'.hasValue field = true := by
  obtain ⟨r, hr, rfl⟩ := h.exists_report hfield
  exact hasValue_of_entries h.reported h.data hr

end Writes

/-! ## One cycle -/

theorem turn_of_holds (h : s.Holds key o) (t : Turn) :
    g.turn key s t =
      if g.breaksDown o t.now o.fields then (none, t.place s)
      else (some (g.finish DryRun.backend o t.now t.entropy (t.place s)).1,
        (g.finish DryRun.backend o t.now t.entropy (t.place s)).2.2) := by
  have hget : DryRun.backend.get key (t.place s) = (.ok (some o), t.place s) := by
    show (Except.ok (s.store.get key), t.place s) = _
    rw [h.found]
  have hbreaks : g.reconcileBreaksDown DryRun.backend key (t.place s) = g.breaksDown o t.now o.fields := by
    rw [reconcileBreaksDown, hget]
    rfl
  rw [turn, hbreaks, reconcile_eq_finish DryRun.backend t.entropy hget]
  rfl

/-- After a cycle the object is as it was, or as the cycle has written it. -/
theorem turn_cases (h : s.Holds key o) (t : Turn) :
    ((g.turn key s t).2.Holds key o ∧ ∀ f, ¬ g.Stores key s t f) ∨
      ∃ reports o', g.Writes o t reports o' ∧ (g.turn key s t).2.Holds key o' ∧
        ∀ f, g.Stores key s t f ↔ ∃ r ∈ reports, r.isWritten = true ∧ r.outcome = f := by
  simp only [Stores, turn_of_holds h t]
  cases hbreaks : g.breaksDown o t.now o.fields with
  | true => exact .inl ⟨⟨h.found, h.keyed⟩, by simp⟩
  | false =>
    simp only [Bool.false_eq_true, if_false, Option.some.injEq]
    by_cases hobject : ∃ v rest changed, g.evaluate o t.now t.entropy = .ok (v, rest) ∧ v.object = some changed
    · obtain ⟨v, rest, changed, heval, hv⟩ := hobject
      obtain ⟨hstore, hanswer⟩ := finish_of_object (t.place s) heval hv
      obtain ⟨reports, hfields, hreported, rfl⟩ := exists_reports_of_evaluate heval
      obtain ⟨-, hkey, -, hannotations, hdata⟩ := Evaluation.of_object_eq_some hv
      rw [hanswer]
      rcases (t.place s).store.update_cases changed with ⟨cause, hcause, huntouched⟩ | ⟨-, -, -, hok, -, hobjects⟩
      · -- The update is refused, so that the store is as it was.
        refine .inl ⟨⟨?_, h.keyed⟩, by simp [hcause, Except.mapError, Except.map]⟩
        rw [hstore, Store.get, huntouched.objects]
        exact h.found
      · refine .inr ⟨reports, ((t.place s).store.put changed).1, ⟨hfields, hreported, ?_, hdata⟩, ⟨?_, ?_⟩, ?_⟩
        · exact hfields ▸ hannotations
        · rw [hstore, Store.get, hobjects]
          exact if_pos (h.keyed.symm.trans hkey.symm)
        · exact hkey.trans h.keyed
        · -- What is stored is told by the outcomes of the cycle.
          intro f
          rw [hok]
          constructor
          · rintro ⟨outcome, houtcome, -, hf, hgot⟩
            cases houtcome
            obtain ⟨r, hr, rfl⟩ := List.mem_map.mp hf
            exact ⟨r, hr, (hreported r hr).isWritten_iff.mpr hgot, rfl⟩
          · rintro ⟨r, hr, hwritten, rfl⟩
            exact ⟨_, rfl, rfl, List.mem_map_of_mem hr, (hreported r hr).isWritten_iff.mp hwritten⟩
    · have hnone : ∀ v rest, g.evaluate o t.now t.entropy = .ok (v, rest) → v.object = none := fun v rest heval =>
        Option.eq_none_iff_forall_ne_some.mpr fun changed hv => hobject ⟨v, rest, changed, heval, hv⟩
      obtain ⟨hstore, hupdated⟩ := finish_of_no_object (t.place s) hnone
      refine .inl ⟨⟨?_, h.keyed⟩, ?_⟩
      · rw [hstore]
        exact h.found
      · rintro f ⟨outcome, houtcome, htrue, -⟩
        rw [hupdated outcome houtcome] at htrue
        cases htrue

/-! ## All cycles -/

theorem run_append (s : DryRun) (before after : List Turn) :
    g.run key s (before ++ after) = g.run key (g.run key s before) after := List.foldl_append

/-- What each cycle that writes preserves, a whole run preserves. -/
theorem exists_holds_run {kind : FieldOutcome → Prop} {P : ManagedObject → Prop} {turns : List Turn} (h : s.Holds key o)
    (hstart : P o) (hspares : g.Spares key kind s turns)
    (hstep : ∀ o t reports o', t ∈ turns → g.Writes o t reports o' →
      (∀ r ∈ reports, r.isWritten = true → ¬ kind r.outcome) → P o → P o') :
    ∃ o', (g.run key s turns).Holds key o' ∧ P o' := by
  induction turns generalizing s o with
  | nil => exact ⟨o, h, hstart⟩
  | cons t turns ih =>
    obtain ⟨hspared, hlater⟩ := hspares
    have hsteps := fun o t' reports o' ht' => hstep o t' reports o' (List.mem_cons_of_mem t ht')
    rcases g.turn_cases h t with ⟨hkept, -⟩ | ⟨reports, o', hwrites, hheld, hstores⟩
    · exact ih hkept hstart hlater hsteps
    · have hnot : ∀ r ∈ reports, r.isWritten = true → ¬ kind r.outcome := fun r hr hwritten =>
        hspared r.outcome ((hstores r.outcome).mpr ⟨r, hr, hwritten, rfl⟩)
      exact ih hheld (hstep o t reports o' List.mem_cons_self hwrites hnot hstart) hlater hsteps

theorem spares_nothing (g : Engine) (key : ObjectKey) (s : DryRun) (turns : List Turn) :
    g.Spares key (fun _ => False) s turns := by
  induction turns generalizing s with
  | nil => trivial
  | cons t turns ih => exact ⟨fun _ _ h => h, ih _⟩

/-- No cycle of a run changes settings. -/
theorem exists_holds_run_sameSettings (h : s.Holds key o) (turns : List Turn) :
    ∃ o', (g.run key s turns).Holds key o' ∧ o.SameSettings o' :=
  exists_holds_run h (.refl o) (g.spares_nothing key s turns) fun _ _ _ _ _ hwrites _ hsame => hsame.trans hwrites.sameSettings

/-- What a cycle decides for a field is told by its outcome. -/
theorem Tells.decision_eq (hf : g.Tells key s t f) (h : s.Holds key o) :
    f.field ∈ o.fields ∧ f.decision = g.decide o f.field t.now := by
  obtain ⟨o', v, rest, hfound, ⟨-, heval⟩, hmem⟩ := hf
  rw [h.found] at hfound
  obtain rfl := Option.some.inj hfound
  obtain ⟨hfields, hdecisions⟩ := outcomes_of_evaluate heval
  exact ⟨hfields ▸ List.mem_map_of_mem hmem, hdecisions f hmem⟩

theorem Stores.decision_eq (hf : g.Stores key s t f) (h : s.Holds key o) :
    f.field ∈ o.fields ∧ f.decision = g.decide o f.field t.now := by
  rcases g.turn_cases h t with ⟨-, hnone⟩ | ⟨reports, o', hwrites, -, hstores⟩
  · exact absurd hf (hnone f)
  · obtain ⟨r, hr, -, rfl⟩ := (hstores f).mp hf
    exact ⟨hwrites.fields ▸ List.mem_map_of_mem hr, (hwrites.reported r hr).decision⟩

end Engine

end SecretRotation
