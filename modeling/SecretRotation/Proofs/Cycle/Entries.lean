import SecretRotation.Proofs.Cycle.Fills
import SecretRotation.Proofs.Cycle.Filling

/-!
# Entries and the fields that fill them

A cycle puts material into entries by name, field after field. A key pair fills two of them, its public half under a name
made from that of its field, which may be the name of another field. What an entry holds in the end is told by the
outcomes: an entry that none of them fills is as it was, and any other holds the material of the last that fills it.

## Main results

* `Evaluation.getElem?_entries_of_last`: the last report with an entry of a name has its value there.
* `Engine.entries_kept_or_filled`: what the entries of fields hold after a cycle.
* `Engine.exists_entry_lost`: not all key pairs are whole after a cycle.
-/

namespace SecretRotation

variable {g : Engine} {o : ManagedObject} {now : Instant}

/-! ## The last value under a name -/

theorem Annotations.publicEntry_ne (field : String) : publicEntry field ≠ field := by
  intro h
  have hlength := congrArg String.length h
  simp only [publicEntry, String.length_append, show ".pub".length = 4 from rfl] at hlength
  omega

/-- No material has two values for one entry. -/
theorem Material.pairwise_entries (material : Material) (field : String) :
    (material.entries field).Pairwise fun entry other => entry.1 ≠ other.1 := by
  cases material with
  | value bytes => exact List.pairwise_singleton _ _
  | pair key => simpa [entries] using (Annotations.publicEntry_ne field).symm

theorem FieldReport.pairwise_entries (r : FieldReport) : r.entries.Pairwise fun entry other => entry.1 ≠ other.1 := by
  rw [entries]
  split
  · exact Material.pairwise_entries _ _
  · exact List.Pairwise.nil

namespace Evaluation

theorem getElem?_foldl_insert_of_last {before after : List (String × SecretBytes)} {name : String} {value : SecretBytes}
    (hlater : ∀ entry ∈ after, entry.1 ≠ name) (data : Entries) :
    ((before ++ (name, value) :: after).foldl (fun found entry => found.insert entry.1 entry.2) data)[name]? =
      some value := by
  rw [List.foldl_append, List.foldl_cons]
  rcases getElem?_foldl_insert after _ name with ⟨hsame, -⟩ | ⟨entry, hentry, hname, -⟩
  · rw [hsame, Std.ExtTreeMap.getElem?_insert_self]
  · exact absurd hname (hlater entry hentry)

theorem getElem?_entries_of_last {before after : List FieldReport} {r : FieldReport} {name : String} {value : SecretBytes}
    (hentry : (name, value) ∈ r.entries) (hlater : ∀ r' ∈ after, ∀ entry ∈ r'.entries, entry.1 ≠ name) (data : Entries) :
    (entries data (before ++ r :: after))[name]? = some value := by
  obtain ⟨first, last, hsplit⟩ := List.append_of_mem hentry
  -- What comes after the value is other entries of the same material, and the entries of later reports.
  have hother : ∀ entry ∈ last, entry.1 ≠ name := by
    have hpair := r.pairwise_entries
    rw [hsplit] at hpair
    exact fun entry hmem => (List.rel_of_pairwise_cons (List.pairwise_append.mp hpair).2.1 hmem).symm
  rw [entries, List.flatMap_append, List.flatMap_cons, hsplit, List.append_assoc, ← List.append_assoc, List.cons_append]
  refine getElem?_foldl_insert_of_last (fun entry hmem => ?_) data
  rcases List.mem_append.mp hmem with hmem | hmem
  · exact hother entry hmem
  · obtain ⟨r', hr', hmem⟩ := List.mem_flatMap.mp hmem
    exact hlater r' hr' entry hmem

end Evaluation

namespace Engine

variable {r : FieldReport} {name : String}

/-! ## After a cycle -/

/-- An entry that no outcome fills is as it was. -/
theorem getElem?_entries_of_not_fills {reports : List FieldReport} (hreported : ∀ r ∈ reports, g.Reported o now r)
    (hnone : ∀ r ∈ reports, ¬ g.Fills o r.outcome name) (data : Entries) :
    (Evaluation.entries data reports)[name]? = data[name]? := by
  rcases Evaluation.getElem?_entries data reports name with ⟨hsame, -⟩ | ⟨r, hr, entry, hentry, hname, -⟩
  · exact hsame
  · subst hname
    exact absurd ((hreported r hr).fills_iff.mpr ⟨entry.2, hentry⟩) (hnone r hr)

/-- The entries that an outcome fills, and no later one, hold its material. -/
theorem exists_made_of_evaluate {e rest : Entropy} {v : Evaluation} {changed : ManagedObject}
    (h : g.evaluate o now e = .ok (v, rest)) (hv : v.object = some changed) {before after : List FieldOutcome}
    {f : FieldOutcome} (hsplit : v.outcomes = before ++ f :: after) (hgot : f.GotMaterial) :
    ∃ material, g.Made o f.field material ∧
      ∀ name value, (name, value) ∈ material.entries f.field → (∀ f' ∈ after, ¬ g.Fills o f' name) →
        changed.data[name]? = some value := by
  obtain ⟨reports, -, hreported, rfl⟩ := exists_reports_of_evaluate h
  obtain ⟨-, -, -, -, hdata⟩ := Evaluation.of_object_eq_some hv
  -- The outcomes are those of the reports, so that the reports split where the outcomes do.
  have houtcomes : reports.map FieldReport.outcome = before ++ f :: after := hsplit
  obtain ⟨earlier, these, rfl, -, hthese⟩ := List.map_eq_append_iff.mp houtcomes
  obtain ⟨r, later, rfl, rfl, rfl⟩ := List.map_eq_cons_iff.mp hthese
  have hr := hreported r (by simp)
  obtain ⟨material, hmade, hentries⟩ := hr.exists_made hgot
  refine ⟨material, hmade, fun name value hentry hlater => ?_⟩
  rw [hdata]
  refine Evaluation.getElem?_entries_of_last (hentries ▸ hentry) (fun r' hr' entry hentry' hname => ?_) _
  subst hname
  exact hlater r'.outcome (List.mem_map_of_mem hr') ((hreported r' (by simp [hr'])).fills_iff.mpr ⟨entry.2, hentry'⟩)

/-- **Entries after a cycle.** An entry that no field fills is as it was: that of a field without material is, unless
another field fills it. The entries of a field with a key pair hold the halves of one pair unless a later field fills one
of them. In any case an entry that is filled holds the material of the last field that fills it. -/
theorem entries_kept_or_filled {e rest : Entropy} {v : Evaluation} {changed : ManagedObject}
    (h : g.evaluate o now e = .ok (v, rest)) (hv : v.object = some changed) :
    (∀ name, (∀ f ∈ v.outcomes, ¬ g.Fills o f name) → changed.data[name]? = o.data[name]?) ∧
      (∀ before f after, v.outcomes = before ++ f :: after → f.GotMaterial → g.MakesPair o f.field →
        (∀ f' ∈ after, ¬ g.Fills o f' f.field ∧ ¬ g.Fills o f' (Annotations.publicEntry f.field)) →
          ∃ key, g.Made o f.field (.pair key) ∧ changed.data[f.field]? = some (.ofText key.privatePem.expose) ∧
            changed.data[Annotations.publicEntry f.field]? = some (.ofText key.publicPem)) ∧
      ∀ before f after name, v.outcomes = before ++ f :: after → g.Fills o f name → (∀ f' ∈ after, ¬ g.Fills o f' name) →
        ∃ material value, g.Made o f.field material ∧ (name, value) ∈ material.entries f.field ∧
          changed.data[name]? = some value := by
  refine ⟨fun name hnone => ?_, fun before f after hsplit hgot hpair hlater => ?_, ?_⟩
  · obtain ⟨reports, -, hreported, rfl⟩ := exists_reports_of_evaluate h
    obtain ⟨-, -, -, -, hdata⟩ := Evaluation.of_object_eq_some hv
    rw [hdata]
    exact getElem?_entries_of_not_fills hreported (fun r hr => hnone _ (List.mem_map_of_mem hr)) _
  · obtain ⟨material, hmade, hvalues⟩ := exists_made_of_evaluate h hv hsplit hgot
    obtain ⟨key, rfl⟩ := hmade.exists_pair_iff.mpr hpair
    refine ⟨key, hmade, ?_, ?_⟩
    · exact hvalues _ _ List.mem_cons_self fun f' hf' => (hlater f' hf').1
    · exact hvalues _ _ (List.mem_cons_of_mem _ List.mem_cons_self) fun f' hf' => (hlater f' hf').2
  · rintro before f after name hsplit ⟨hgot, hname⟩ hlater
    obtain ⟨material, hmade, hvalues⟩ := exists_made_of_evaluate h hv hsplit hgot
    obtain ⟨value, hentry⟩ := hmade.exists_mem_entries_iff.mpr hname
    exact ⟨material, value, hmade, hentry, hvalues name value hentry hlater⟩

/-- An object with a key pair to fill, after a password that is there and before a token that is not. -/
def pairBesideOthers : ManagedObject :=
  ⟨⟨"default", "web"⟩, none,
    ((∅ : Annotations).insert Annotations.autogenerate "password,tls,token").insert
      (Annotations.fieldKey Annotations.kind "tls") "ed25519",
    (∅ : Entries).insert "password" (.ofText "existing")⟩

theorem kinds_pairBesideOthers :
    (ungated.spec pairBesideOthers "password").kind = .ok .string ∧ (ungated.spec pairBesideOthers "tls").kind = .ok .ed25519 ∧
      (ungated.spec pairBesideOthers "token").kind = .ok .string := by
  decide +kernel

/-- Both halves of the pair are in their places, the password is as it was, and the token holds what was made for it. -/
theorem entries_filled_pairBesideOthers :
    ∃ v rest changed, ungated.evaluate pairBesideOthers (.ofSeconds 0) ⟨fun _ => 0, 0⟩ = .ok (v, rest) ∧
      v.object = some changed ∧
      v.outcomes = [⟨"password", .skip none, none⟩, ⟨"tls", .generate, none⟩, ⟨"token", .generate, none⟩] ∧
      changed.data["password"]? = some (.ofText "existing") ∧
      (∃ key, ungated.Made pairBesideOthers "tls" (.pair key) ∧
        changed.data["tls"]? = some (.ofText key.privatePem.expose) ∧
        changed.data["tls.pub"]? = some (.ofText key.publicPem)) ∧
      ∃ material value, ungated.Made pairBesideOthers "token" material ∧ ("token", value) ∈ material.entries "token" ∧
        changed.data["token"]? = some value := by
  have hfields : pairBesideOthers.fields = ["password", "tls", "token"] := by decide +kernel
  obtain ⟨hpassword, htls, htoken⟩ := kinds_pairBesideOthers
  obtain ⟨v, rest, changed, hok, hobject, houtcomes⟩ := exists_evaluate_of_fillable (g := ungated) (o := pairBesideOthers)
    (by
      rw [hfields]
      simpa using ⟨Generator.delivers_of_not_isKeypair hpassword rfl, Generator.delivers_standard_of_ed25519 htls,
        Generator.delivers_of_not_isKeypair htoken rfl⟩)
    (by rw [hfields]; decide +kernel) ⟨"tls", by rw [hfields]; decide, by decide +kernel⟩ (.ofSeconds 0) ⟨fun _ => 0, 0⟩
  have hdecisions : ungated.decide pairBesideOthers "password" (.ofSeconds 0) = .skip none ∧
      ungated.decide pairBesideOthers "tls" (.ofSeconds 0) = .generate ∧
      ungated.decide pairBesideOthers "token" (.ofSeconds 0) = .generate := by decide +kernel
  have hsplit : v.outcomes = [⟨"password", .skip none, none⟩, ⟨"tls", .generate, none⟩, ⟨"token", .generate, none⟩] := by
    simpa [hfields, hdecisions] using houtcomes
  obtain ⟨hkept, hpair, hlast⟩ := entries_kept_or_filled hok hobject
  refine ⟨v, rest, changed, hok, hobject, hsplit, ?_, ?_, ?_⟩
  · refine (hkept "password" ?_).trans (by decide +kernel)
    simp [hsplit, Fills, FieldOutcome.GotMaterial, Decision.producesMaterial, Annotations.publicEntry]
  · refine hpair [⟨"password", .skip none, none⟩] ⟨"tls", .generate, none⟩ [⟨"token", .generate, none⟩] hsplit ⟨rfl, rfl⟩
      ⟨.ed25519, htls, rfl⟩ ?_
    simp [Fills, Annotations.publicEntry]
  · exact hlast [⟨"password", .skip none, none⟩, ⟨"tls", .generate, none⟩] ⟨"token", .generate, none⟩ [] "token" hsplit
      ⟨⟨rfl, rfl⟩, .inl rfl⟩ (by simp)

/-- An object with a key pair to fill, and with a text whose field has the name of the public entry. -/
def pairAndText : ManagedObject :=
  ⟨⟨"default", "web"⟩, none,
    ((∅ : Annotations).insert Annotations.autogenerate "tls,tls.pub").insert
      (Annotations.fieldKey Annotations.kind "tls") "ed25519", ∅⟩

theorem kinds_pairAndText :
    (ungated.spec pairAndText "tls").kind = .ok .ed25519 ∧ (ungated.spec pairAndText "tls.pub").kind = .ok .string := by
  decide +kernel

/-- Both fields are filled, the text after the pair. -/
theorem exists_evaluate_pairAndText (e : Entropy) :
    ∃ v rest changed, ungated.evaluate pairAndText (.ofSeconds 0) e = .ok (v, rest) ∧ v.object = some changed ∧
      v.outcomes = [⟨"tls", .generate, none⟩, ⟨"tls.pub", .generate, none⟩] := by
  have hfields : pairAndText.fields = ["tls", "tls.pub"] := by decide +kernel
  have hpair : ungated.generator.Delivers (ungated.spec pairAndText "tls") :=
    Generator.delivers_standard_of_ed25519 kinds_pairAndText.1
  have htext : ungated.generator.Delivers (ungated.spec pairAndText "tls.pub") :=
    Generator.delivers_of_not_isKeypair kinds_pairAndText.2 rfl
  have hexists := exists_evaluate_of_empty (g := ungated) (o := pairAndText)
    (by rw [hfields]; simpa using ⟨hpair, htext⟩) (by rw [hfields]; decide +kernel) (by rw [hfields]; decide +kernel)
    (by simp [hfields]) (.ofSeconds 0) e
  simpa [hfields] using hexists

/-- Not all key pairs are whole: where a text has the name of the public entry and comes later, the public half is
lost. -/
theorem exists_entry_lost :
    ¬ ∀ (g : Engine) (o : ManagedObject) (now : Instant) (e rest : Entropy) (v : Evaluation) (changed : ManagedObject),
      g.evaluate o now e = .ok (v, rest) → v.object = some changed →
        (∀ f ∈ v.outcomes, ¬ f.GotMaterial → changed.data[f.field]? = o.data[f.field]?) ∧
          ∀ f ∈ v.outcomes, f.GotMaterial → g.MakesPair o f.field →
            ∃ key, g.Made o f.field (.pair key) ∧ changed.data[f.field]? = some (.ofText key.privatePem.expose) ∧
              changed.data[Annotations.publicEntry f.field]? = some (.ofText key.publicPem) := by
  intro hall
  obtain ⟨v, rest, changed, hok, hobject, houtcomes⟩ := exists_evaluate_pairAndText ⟨fun _ => 0, 0⟩
  obtain ⟨key, -, -, hpublic⟩ := (hall _ _ _ _ _ _ _ hok hobject).2 ⟨"tls", .generate, none⟩ (by simp [houtcomes])
    ⟨rfl, rfl⟩ ⟨.ed25519, kinds_pairAndText.1, rfl⟩
  have hsplit : v.outcomes = [⟨"tls", .generate, none⟩] ++ ⟨"tls.pub", .generate, none⟩ :: [] := houtcomes
  obtain ⟨material, ⟨e, rest', hproduce⟩, hvalues⟩ := exists_made_of_evaluate hok hobject hsplit ⟨rfl, rfl⟩
  -- The text is of the letter x alone, and no public half begins with it.
  simp only [Generator.produce, kinds_pairAndText.2] at hproduce
  obtain ⟨bytes, hbytes, rfl⟩ := exists_of_map_eq_ok hproduce
  obtain ⟨cs, rfl, -, -, hcs⟩ := Charset.exists_chars_of_randomText hbytes
  have htext := hvalues "tls.pub" _ List.mem_cons_self (by simp)
  rw [show Annotations.publicEntry "tls" = "tls.pub" from rfl, htext] at hpublic
  have hsame : String.ofList cs = key.publicPem :=
    String.toByteArray_inj.mp (congrArg Secret.expose (Option.some.inj hpublic))
  have hdash : '-' ∈ cs := by
    have hhead := key.head?_publicPem
    rw [← hsame, String.toList_ofList] at hhead
    exact List.mem_of_head? hhead
  exact absurd (hcs '-' hdash) (by decide)

end Engine

end SecretRotation
