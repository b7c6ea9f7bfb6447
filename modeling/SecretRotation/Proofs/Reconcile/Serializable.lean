import SecretRotation.Proofs.Cycle.Entries

/-!
# Cycles that share a store

Cycles and other clients share a store, and their accesses come in any order. Whatever the order, a cycle writes only over
the very object that it has read, so that it is as if nobody had been at the store in between. A cycle that has been
overtaken fails and changes nothing.

What a cycle changes is therefore justified by the object as it is in the store just before. Values that are there are
replaced only if they are due, but for the public halves of key pairs: these are written whatever was under their names.

## Main results

* `Shared.finish_over_unchanged`: a cycle that writes has its object as it is in the store.
* `Shared.finish_of_newerThan`: a cycle whose object has been written since changes nothing.
* `Shared.cycles_serializable`: cycles write over what they have read, or not at all.
* `Shared.exists_value_overwritten`: that is not so once the count of versions has started over, and not all values stay
  when a field is filled for the first time.
-/

namespace SecretRotation.Shared

variable (engines : Nat → Engine) {s : Shared} {a : Access} {key : ObjectKey} {c : Nat} {o : ManagedObject}

/-- A cycle that is under way has read its object at some time, and has done nothing since. -/
theorem exists_read_of_held {accesses : List Access} (hs : s.held c = none)
    (h : (run engines s accesses).held c = some o) :
    ∃ before key between, accesses = before ++ .read c key :: between ∧ (∀ a ∈ between, ¬ a.IsOf c) ∧
      (run engines s before).place.store.get key = some o := by
  -- From the last access backwards: it is the reading, or the cycle has held the object since before.
  induction accesses using List.reverseRecOn generalizing o with
  | nil =>
    rw [run, List.foldl_nil, hs] at h
    cases h
  | append_singleton rest a ih =>
    rw [run_append] at h
    by_cases hread : ∃ key, a = .read c key
    · obtain ⟨key, rfl⟩ := hread
      exact ⟨rest, key, [], rfl, by simp, (if_pos rfl).symm.trans h⟩
    · have hnot := not_isOf_of_held_step engines (fun key heq => hread ⟨key, heq⟩) h
      obtain ⟨before, key, between, rfl, hbetween, hget⟩ := ih ((held_step_of_not_isOf engines hnot).symm.trans h)
      refine ⟨before, key, between ++ [a], by simp, fun b hb => ?_, hget⟩
      rcases List.mem_append.mp hb with hb | hb
      · exact hbetween b hb
      · exact List.mem_singleton.mp hb ▸ hnot

/-- A cycle that writes has its object as it is in the store, and the object that it writes takes its place. -/
theorem finish_over_unchanged (h : s.Sound) (hheld : s.held c = some o) {g : Engine} {now : Instant} {e : Entropy}
    {outcome : ReconcileOutcome} (hok : (g.finish DryRun.backend o now e s.place).1 = .ok outcome)
    (hupdated : outcome.updated = true) :
    s.place.store.get o.key = some o ∧
      ∃ written, (g.finish DryRun.backend o now e s.place).2.2.store.get o.key = some written ∧
        g.Justified o written now outcome.fields := by
  by_cases hobject : ∃ v rest changed, g.evaluate o now e = .ok (v, rest) ∧ v.object = some changed
  · obtain ⟨v, rest, changed, heval, hv⟩ := hobject
    obtain ⟨hstore, hanswer⟩ := Engine.finish_of_object s.place heval hv
    have hjustified := Engine.justified_of_evaluate heval hv
    obtain ⟨reports, -, -, rfl⟩ := Engine.exists_reports_of_evaluate heval
    obtain ⟨-, hkey, hversion, -⟩ := Evaluation.of_object_eq_some hv
    rw [hanswer] at hok
    rcases s.place.store.update_cases changed with ⟨cause, hcause, -⟩ | ⟨current, hcurrent, hsame, hput, -, hobjects⟩
    · rw [hcause] at hok
      cases hok
    · -- The update went through, so that the version stored is the one that was read.
      rw [hput] at hok
      obtain rfl := Except.ok.inj hok
      rw [hkey] at hcurrent
      have hunchanged := h.current c o hheld current hcurrent (hsame.trans hversion)
      refine ⟨hunchanged ▸ hcurrent, (s.place.store.put changed).1, ?_,
        ⟨hjustified.generated, hjustified.rotated, hjustified.entries, hjustified.replaced⟩⟩
      rw [hstore, Store.get, hobjects]
      exact if_pos hkey.symm
  · have hnone : ∀ v rest, g.evaluate o now e = .ok (v, rest) → v.object = none := fun v rest heval =>
      Option.eq_none_iff_forall_ne_some.mpr fun changed hv => hobject ⟨v, rest, changed, heval, hv⟩
    rw [(Engine.finish_of_no_object s.place hnone).2 outcome hok] at hupdated
    cases hupdated

/-- A cycle whose object has been written since it was read changes nothing. -/
theorem finish_of_newerThan {n : UInt64} (hheld : o.version = some (Store.versionText n)) (h : s.NewerThan n o.key)
    {g : Engine} {now : Instant} {e rest : Entropy} {v : Evaluation} {changed : ManagedObject}
    (heval : g.evaluate o now e = .ok (v, rest)) (hv : v.object = some changed) :
    (∃ cause, (g.finish DryRun.backend o now e s.place).1 = .error (.store cause)) ∧
      s.place.store.Untouched (g.finish DryRun.backend o now e s.place).2.2.store := by
  obtain ⟨hstore, hanswer⟩ := Engine.finish_of_object s.place heval hv
  obtain ⟨reports, -, -, rfl⟩ := Engine.exists_reports_of_evaluate heval
  obtain ⟨-, hkey, hversion, -⟩ := Evaluation.of_object_eq_some hv
  rw [hstore, hanswer]
  rcases s.place.store.update_cases changed with ⟨cause, hcause, huntouched⟩ | ⟨current, hcurrent, hsame, -⟩
  · exact ⟨⟨cause, by rw [hcause]; rfl⟩, huntouched⟩
  · -- An update that goes through would have found the version read, which is not the one stored any more.
    obtain ⟨m, newer, hm, hnewer, hnewerVersion⟩ := h
    rw [hkey, hnewer] at hcurrent
    obtain rfl := Option.some.inj hcurrent
    rw [hnewerVersion, hversion, hheld] at hsame
    obtain rfl := Store.versionText_injective (Option.some.inj hsame)
    exact absurd hm (UInt64.lt_irrefl _)

/-- **Cycles are serializable.** After any accesses to a shared store in the course of which the count of versions has not
started over, a cycle that is under way holds the object that it has read. If it writes now, the object in the store is that
very object, and what is changed of it is justified by it; if it does not, nothing changes. If the object has been written
by anyone since it was read, an attempt to write fails and leaves objects, versions and the count of updates alone. -/
theorem cycles_serializable {first : Instant} {accesses : List Access} {now : Instant} {e left : Entropy}
    {answer : Option (Except ReconcileError ReconcileOutcome)} {after : DryRun}
    (hrising : Rising engines (start first) accesses) (hrun : run engines (start first) accesses = s)
    (hheld : s.held c = some o)
    (hfinish : (engines c).tryFinish DryRun.backend o now e s.place = (answer, left, after)) :
    ∃ before key between, accesses = before ++ .read c key :: between ∧ (∀ a ∈ between, ¬ a.IsOf c) ∧
      (run engines (start first) before).place.store.get key = some o ∧
      (s.place.store.Untouched after.store ∨ ∃ outcome, answer = some (.ok outcome) ∧ outcome.updated = true) ∧
      (∀ outcome, answer = some (.ok outcome) → outcome.updated = true →
        s.place.store.get key = some o ∧
          ∃ written, after.store.get key = some written ∧ (engines c).Justified o written now outcome.fields) ∧
      ∀ earlier a later, between = earlier ++ a :: later →
        WritesTo engines (run engines (start first) (before ++ .read c key :: earlier)) key a →
        ∀ v rest changed, (engines c).Ends o now e (.ok (v, rest)) → v.object = some changed →
          (∃ cause, answer = some (.error (.store cause))) ∧ s.place.store.Untouched after.store := by
  subst hrun
  obtain rfl : _ = answer := congrArg Prod.fst hfinish
  obtain rfl : _ = after := congrArg (fun done => done.2.2) hfinish
  obtain ⟨before, key, between, haccesses, hbetween, hget⟩ := exists_read_of_held engines rfl hheld
  obtain ⟨hbefore, hsince⟩ := (rising_append engines).mp (haccesses ▸ hrising)
  have hsound := sound_run engines (sound_start first) hbefore
  obtain rfl := hsound.keyed key o hget
  refine ⟨before, o.key, between, haccesses, hbetween, hget, ?_, fun outcome hok hupdated => ?_, ?_⟩
  · exact (tryFinish_cases (engines c) _ o now e).imp And.left And.right
  · cases hstands : (engines c).breaksDown o now o.fields with
    | true =>
      rw [Engine.tryFinish_of_breaksDown _ hstands] at hok
      cases hok
    | false =>
      rw [Engine.tryFinish_of_stands _ hstands] at hok ⊢
      exact finish_over_unchanged (sound_run engines (sound_start first) hrising) hheld (Option.some.inj hok) hupdated
  · intro earlier a later hsplit hwrites v rest changed hends hv
    -- The version read was given out by the time of the reading, that of the write only after it.
    obtain ⟨n, hn, hversion⟩ := hsound.stored o.key o hget
    have hnewer : (run engines (start first) accesses).NewerThan n o.key := by
      rw [run_append] at hwrites
      rw [haccesses, run_append, hsplit, ← List.cons_append]
      exact newer_of_written engines (by rwa [hsplit] at hsince) hn hwrites
    obtain ⟨⟨cause, hcause⟩, huntouched⟩ := finish_of_newerThan hversion hnewer hends.2 hv
    rw [Engine.tryFinish_of_stands _ hends.1]
    exact ⟨⟨cause, congrArg some hcause⟩, huntouched⟩

/-- An object with one field to fill, as the first version. -/
def unfilled : ManagedObject :=
  ⟨⟨"default", "db"⟩, some (Store.versionText 1), (∅ : Annotations).insert Annotations.autogenerate "password", ∅⟩

open Engine in
/-- A cycle that holds it has an object to write. -/
theorem exists_evaluate_unfilled :
    ∃ v rest changed, ungated.evaluate unfilled default ⟨fun _ => 0, 0⟩ = .ok (v, rest) ∧ v.object = some changed := by
  have hmade : ∃ done ∈ (ungated.evaluate unfilled default ⟨fun _ => 0, 0⟩).toOption, done.1.object.isSome := by
    decide +kernel
  obtain ⟨done, hdone, hobject⟩ := hmade
  obtain ⟨changed, hchanged⟩ := Option.isSome_iff_exists.mp hobject
  exact ⟨done.1, done.2, changed, eq_ok_of_mem_toOption hdone, hchanged⟩

/-- A client has inserted the object, and two cycles have read it. -/
def bothRead : List Access := [.insert unfilled, .read 0 unfilled.key, .read 1 unfilled.key]

/-- The second of them is the first to write. -/
def overtaken : List Access := bothRead ++ [.finish 1 default ⟨fun _ => 0, 0⟩]

theorem split_overtaken {before between : List Access}
    (h : overtaken = before ++ .read 0 key :: between) :
    before = [.insert unfilled] ∧ key = unfilled.key ∧
      between = [.read 1 unfilled.key] ++ .finish 1 default ⟨fun _ => 0, 0⟩ :: [] := by
  rcases before with _ | ⟨a, _ | ⟨b, rest⟩⟩
  · simp [overtaken, bothRead] at h
  · simp only [overtaken, bothRead, List.cons_append, List.nil_append, List.cons.injEq, Access.read.injEq] at h
    obtain ⟨rfl, ⟨-, rfl⟩, rfl⟩ := h
    exact ⟨rfl, rfl, rfl⟩
  · -- The first cycle reads once only.
    simp only [overtaken, bothRead, List.cons_append, List.nil_append, List.cons.injEq] at h
    have hmem : Access.read 0 key ∈ [Access.read 1 unfilled.key, .finish 1 default ⟨fun _ => 0, 0⟩] := by
      rw [h.2.2]
      simp
    simp at hmem

open Engine in
/-- The second cycle fills the field over the very object that both have read. The first one comes too late: it has an
object to write as well, is refused and changes nothing. -/
theorem cycles_serializable_overtaken :
    (∃ outcome key, (ungated.tryFinish DryRun.backend unfilled default ⟨fun _ => 0, 0⟩
        (run (fun _ => ungated) (start default) bothRead).place).1 = some (.ok outcome) ∧ outcome.updated = true ∧
      (run (fun _ => ungated) (start default) bothRead).place.store.get key = some unfilled) ∧
    ∃ cause, (ungated.tryFinish DryRun.backend unfilled default ⟨fun _ => 0, 0⟩
        (run (fun _ => ungated) (start default) overtaken).place).1 = some (.error (.store cause)) ∧
      (run (fun _ => ungated) (start default) overtaken).place.store.Untouched
        (ungated.tryFinish DryRun.backend unfilled default ⟨fun _ => 0, 0⟩
          (run (fun _ => ungated) (start default) overtaken).place).2.2.store := by
  have hwrites : ∃ outcome ∈ (ungated.tryFinish DryRun.backend unfilled default ⟨fun _ => 0, 0⟩
      (run (fun _ => ungated) (start default) bothRead).place).1.bind Except.toOption, outcome.updated = true := by
    decide +kernel
  obtain ⟨outcome, hmem, hupdated⟩ := hwrites
  obtain ⟨answer, hanswer, hok⟩ := Option.bind_eq_some_iff.mp hmem
  obtain rfl := eq_ok_of_mem_toOption hok
  have hrising : ∀ accesses : List Access, accesses.length ≤ 4 → Rising (fun _ => ungated) (start default) accesses :=
    fun accesses hlength => rising_of_length _ (Nat.lt_of_le_of_lt (Nat.add_le_add_left hlength _) (by decide))
  refine ⟨⟨outcome, ?_⟩, ?_⟩
  · obtain ⟨before, key, between, -, -, -, -, hover, -⟩ := cycles_serializable (fun _ => ungated) (c := 1)
      (o := unfilled) (hrising bothRead (by decide)) rfl rfl
      (Prod.eta (ungated.tryFinish DryRun.backend unfilled default ⟨fun _ => 0, 0⟩ _)).symm
    exact ⟨key, hanswer, hupdated, (hover outcome hanswer hupdated).1⟩
  · obtain ⟨before, key, between, hsplit, -, -, -, -, hlate⟩ := cycles_serializable (fun _ => ungated) (c := 0)
      (o := unfilled) (hrising overtaken (by decide)) rfl rfl
      (Prod.eta (ungated.tryFinish DryRun.backend unfilled default ⟨fun _ => 0, 0⟩ _)).symm
    obtain ⟨rfl, rfl, rfl⟩ := split_overtaken hsplit
    obtain ⟨v, rest, changed, heval, hv⟩ := exists_evaluate_unfilled
    obtain ⟨⟨cause, hcause⟩, huntouched⟩ := hlate [.read 1 unfilled.key] _ [] rfl
      ⟨unfilled, outcome, rfl, rfl, hanswer, hupdated⟩ v rest changed ⟨by decide +kernel, heval⟩ hv
    exact ⟨cause, hcause, huntouched⟩

/-- An object with a key pair to fill, and with a value in the place of its public half. -/
def pairBesideValue : ManagedObject :=
  ⟨⟨"default", "web"⟩, some (Store.versionText 1),
    ((∅ : Annotations).insert Annotations.autogenerate "tls").insert Annotations.kind "ed25519",
    (∅ : Entries).insert "tls.pub" (.ofText "existing")⟩

open Engine in
/-- The pair is made, and its public half takes the place of the value. -/
theorem exists_evaluate_pairBesideValue (e : Entropy) :
    ∃ v rest changed, ∃ key : PrivateKey,
      ungated.evaluate pairBesideValue (.ofSeconds 0) e = .ok (v, rest) ∧ v.object = some changed ∧
      v.outcomes = [⟨"tls", .generate, none⟩] ∧ changed.data["tls.pub"]? = some (.ofText key.publicPem) := by
  have hfields : pairBesideValue.fields = ["tls"] := by decide +kernel
  have hkind : (ungated.spec pairBesideValue "tls").kind = .ok .ed25519 := by decide +kernel
  have hdelivers : ungated.generator.Delivers (ungated.spec pairBesideValue "tls") :=
    Generator.delivers_standard_of_ed25519 hkind
  obtain ⟨v, rest, changed, hok, hobject, houtcomes⟩ := exists_evaluate_of_empty (g := ungated) (o := pairBesideValue)
    (by simpa [hfields] using hdelivers) (by rw [hfields]; decide +kernel) (by rw [hfields]; decide +kernel)
    (by simp [hfields]) (.ofSeconds 0) e
  have hsplit : v.outcomes = [] ++ ⟨"tls", .generate, none⟩ :: [] := by simpa [hfields] using houtcomes
  obtain ⟨material, hmade, hvalues⟩ := exists_made_of_evaluate hok hobject hsplit ⟨rfl, rfl⟩
  obtain ⟨key, rfl⟩ := hmade.exists_pair_iff.mpr ⟨.ed25519, hkind, rfl⟩
  exact ⟨v, rest, changed, key, hok, hobject, hsplit, hvalues _ _ (List.mem_cons_of_mem _ List.mem_cons_self) (by simp)⟩

open Engine in
/-- Not all values stay when fields are only filled for the first time: the public half of a pair takes the place of one. -/
theorem exists_value_replaced :
    ¬ ∀ (engines : Nat → Engine) (first now : Instant) (accesses : List Access) (c : Nat) (o written : ManagedObject)
      (e left : Entropy) (outcome : ReconcileOutcome) (after : DryRun), Rising engines (start first) accesses →
      (run engines (start first) accesses).held c = some o →
      (engines c).tryFinish DryRun.backend o now e (run engines (start first) accesses).place =
        (some (.ok outcome), left, after) → outcome.updated = true → after.store.get o.key = some written →
      (∀ f ∈ outcome.fields, f.decision = .generate) →
        ∀ name, o.hasValue name = true → written.data[name]? = o.data[name]? := by
  intro hall
  obtain ⟨v, rest, changed, key, hok, hobject, houtcomes, hpublic⟩ := exists_evaluate_pairBesideValue ⟨fun _ => 0, 0⟩
  have hstands : ungated.breaksDown pairBesideValue (.ofSeconds 0) pairBesideValue.fields = false := by decide +kernel
  obtain ⟨place, hplace⟩ : ∃ place, (run (fun _ => ungated) (start default)
      [.insert pairBesideValue, .read 0 pairBesideValue.key]).place = place := ⟨_, rfl⟩
  obtain ⟨hstore, hanswer⟩ := finish_of_object place hok hobject
  -- Nobody else is at the store, so that the update goes through.
  obtain ⟨reports, -, -, rfl⟩ := exists_reports_of_evaluate hok
  obtain ⟨-, hkey, hversion, -⟩ := Evaluation.of_object_eq_some hobject
  have hupdate : place.store.update changed =
      (.ok (place.store.put changed).1, { (place.store.put changed).2 with updates := place.store.updates + 1 }) := by
    have hcurrent : place.store.get changed.key = some pairBesideValue := by
      rw [hkey, ← hplace]
      rfl
    have hpending : place.store.nextFailure = none := hplace ▸ rfl
    rw [Store.update_of_current hcurrent hversion.symm, hpending]
  rw [hupdate] at hstore hanswer
  have hkept := hall (fun _ => ungated) default (.ofSeconds 0) [.insert pairBesideValue, .read 0 pairBesideValue.key] 0
    pairBesideValue (place.store.put changed).1 ⟨fun _ => 0, 0⟩ _ _ _
    (rising_of_length _ (by decide)) rfl
    (by rw [hplace, tryFinish_of_stands _ hstands, hanswer]; rfl) rfl (by rw [hstore]; exact if_pos hkey.symm)
    (by simp [houtcomes]) "tls.pub" (by decide +kernel)
  -- No public half reads like the value that was there.
  have hstored : pairBesideValue.data["tls.pub"]? = some (.ofText "existing") := by decide +kernel
  have hsame : key.publicPem = "existing" :=
    String.toByteArray_inj.mp (congrArg Secret.expose (Option.some.inj (hpublic.symm.trans (hkept.trans hstored))))
  have hhead := key.head?_publicPem
  rw [hsame] at hhead
  exact absurd hhead (by decide)

/-- The object with a value that a client has put there. -/
def filled : ManagedObject := { unfilled with data := (∅ : Entries).insert "password" (.ofText "existing") }

/-- A cycle has read the object, and a client has filled it since, again and again. -/
def insertedSince (n : Nat) : List Access :=
  [.insert unfilled, .read 0 unfilled.key] ++ List.replicate n (.insert filled)

open Engine in
/-- If the count of versions is then where it was, the cycle writes over what it has not read. -/
theorem finish_of_insertedSince {n : Nat} (hn : 0 < n) (hwrap : UInt64.ofNat n = 0) :
    (run (fun _ => ungated) (start default) (insertedSince n)).held 0 = some unfilled ∧
      (run (fun _ => ungated) (start default) (insertedSince n)).place.store.get unfilled.key = some filled ∧
      ∃ outcome, (ungated.tryFinish DryRun.backend unfilled default ⟨fun _ => 0, 0⟩
        (run (fun _ => ungated) (start default) (insertedSince n)).place).1 = some (.ok outcome) ∧
        outcome.updated = true := by
  obtain ⟨hheld, hpending, -, hget⟩ := run_replicate_insert (fun _ => ungated)
    (run (fun _ => ungated) (start default) [.insert unfilled, .read 0 unfilled.key]) filled n
  rw [← run_append] at hheld hpending hget
  rw [hwrap] at hget
  obtain ⟨place, hplace⟩ : ∃ place, (run (fun _ => ungated) (start default) (insertedSince n)).place = place :=
    ⟨_, rfl⟩
  have hcurrent : place.store.get unfilled.key = some filled := hplace ▸ hget hn
  have hnone : place.store.nextFailure = none := hplace ▸ hpending
  refine ⟨congrFun hheld 0, hplace ▸ hcurrent, ?_⟩
  obtain ⟨v, rest, changed, hok, hobject⟩ := exists_evaluate_unfilled
  obtain ⟨-, hanswer⟩ := finish_of_object place hok hobject
  -- The client's object is under the version that the cycle has read, so that the update goes through.
  obtain ⟨reports, -, -, rfl⟩ := exists_reports_of_evaluate hok
  obtain ⟨-, hkey, hversion, -⟩ := Evaluation.of_object_eq_some hobject
  have hsame : filled.version = changed.version := hversion.symm
  rw [hplace, tryFinish_of_stands _ (by decide +kernel), hanswer,
    Store.update_of_current (hkey ▸ hcurrent) hsame, hnone]
  exact ⟨_, rfl, rfl⟩

/-- Not all cycles that write have read what is in the store: the count of versions may have started over since. And even if
it has not, not all values stay when fields are only filled for the first time. -/
theorem exists_value_overwritten :
    (∃ outcome,
      (run (fun _ => Engine.ungated) (start default) (insertedSince UInt64.size)).held 0 = some unfilled ∧
      (Engine.ungated.tryFinish DryRun.backend unfilled default ⟨fun _ => 0, 0⟩
        (run (fun _ => Engine.ungated) (start default) (insertedSince UInt64.size)).place).1 = some (.ok outcome) ∧
      outcome.updated = true ∧
      (run (fun _ => Engine.ungated) (start default) (insertedSince UInt64.size)).place.store.get unfilled.key ≠
        some unfilled) ∧
    ¬ ∀ (engines : Nat → Engine) (first now : Instant) (accesses : List Access) (c : Nat) (o written : ManagedObject)
      (e left : Entropy) (outcome : ReconcileOutcome) (after : DryRun), Rising engines (start first) accesses →
      (run engines (start first) accesses).held c = some o →
      (engines c).tryFinish DryRun.backend o now e (run engines (start first) accesses).place =
        (some (.ok outcome), left, after) → outcome.updated = true → after.store.get o.key = some written →
      (∀ f ∈ outcome.fields, f.decision = .generate) →
        ∀ name, o.hasValue name = true → written.data[name]? = o.data[name]? := by
  refine ⟨?_, exists_value_replaced⟩
  obtain ⟨hheld, hstored, outcome, hanswer, hupdated⟩ :=
    finish_of_insertedSince (n := UInt64.size) (Nat.two_pow_pos 64) UInt64.ofNat_size
  refine ⟨outcome, hheld, hanswer, hupdated, fun hsame => ?_⟩
  have hfilled : filled.hasValue "password" = unfilled.hasValue "password" :=
    congrArg (ManagedObject.hasValue · "password") (Option.some.inj (hstored.symm.trans hsame))
  exact absurd hfilled (by decide +kernel)

end SecretRotation.Shared
