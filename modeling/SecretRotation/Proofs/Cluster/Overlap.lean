import SecretRotation.Cluster.Client
import SecretRotation.Proofs.Settings.Usable

/-!
# Writes that overlap with others

To write an object back into a cluster takes two requests, some time after the object was read, and others may write before,
between and after them. The manifest that is changed comes from the later look, and its version from the first one. So a
write only goes through over what was read, or else nothing is written at all. That is if the answer of the server can be
believed: one that stores a manifest and then fails to say so leaves the client in the dark.

A manifest is what the client makes of a document. Members that it does not know are not in the manifest, and are gone when
it has been written back.

## Main definitions

* `SecretApi.Guarded`, `SecretApi.Lawful`: what is relied on a server for.
* `ManifestWrite`, `heldAfter`: writes, and what a server holds after them.
* `SecretApi.Overlapped`: a cycle writes an object while others write, too.
* `SecretApi.AnswersConflict`: the server refuses a manifest as one that has changed.

## Main results

* `heldAfter_cases`: a secret is as it was, or as someone left it.
* `Cluster.lawful_api`: the server in memory can be relied on.
* `SecretApi.Overlapped.not_written_of_put`: a manifest that is put was not written by others since it was read.
* `SecretApi.no_write_lost`: a write goes through over what was read, or it fails and changes nothing.
* `SecretApi.exists_write_beyond_answer`: not all answers tell what was written.
-/

namespace SecretRotation

/-- The manifests that a server holds, by the paths that lead to them. -/
abbrev Holdings := String → Option Manifest

/-- A manifest is written to the end of a path. -/
structure ManifestWrite where
  path : String
  /-- What is held then. Nothing is, if the write was a deletion. -/
  left : Option Manifest

/-- What is held after a write. -/
def ManifestWrite.apply (w : ManifestWrite) (held : Holdings) : Holdings :=
  fun path => if path = w.path then w.left else held path

/-- What is held after writes, one after the other. -/
def heldAfter (writes : List ManifestWrite) (held : Holdings) : Holdings :=
  writes.foldl (fun held w => w.apply held) held

/-- The versions that writes give to the manifest at the end of a path. -/
def versionsAt (path : String) (writes : List ManifestWrite) : List (Option String) :=
  writes.filterMap fun w => if w.path = path then w.left.map (·.version) else none

namespace SecretApi

variable {σ : Type}

/-- A server answers with the manifest it holds, and puts a manifest only over one with the version sent along. -/
structure Guarded (api : SecretApi σ) (held : σ → Holdings) : Prop where
  get_keeps : ∀ {path s answer s'}, api.get path s = (answer, s') → held s' = held s
  get_held : ∀ {path s m s'}, api.get path s = (.ok m, s') → held s path = some m
  put_over : ∀ {path m s stored s'}, api.put path m s = (.ok stored, s') →
    ∃ current, held s path = some current ∧ ∀ version, m.version = some version → current.version = some version

/-- What the server answers can be believed, too. A manifest that it has put is kept as the next version, which is told, and
a request that it refuses changes nothing. -/
structure Lawful (api : SecretApi σ) (held : σ → Holdings) : Prop extends api.Guarded held where
  put_keeps : ∀ {path m s stored s'}, api.put path m s = (.ok stored, s') →
    (∃ version, stored = { m with version := some version }) ∧ held s' = (ManifestWrite.mk path (some stored)).apply (held s)
  put_refused : ∀ {path m s status s'}, api.put path m s = (.error status, s') → held s' = held s

/-- An object is read from the manifest that a key leads to. Others write before the manifest is fetched to be changed, and
again before it is put. Each version that the secret is given is one that it has not had since it was read. -/
structure Overlapped (api : SecretApi σ) (held : σ → Holdings) (key : ObjectKey) (path : String) (m : Manifest)
    (o changed : ManagedObject) (found : Except ClusterError (Option Manifest)) (early late : List ManifestWrite)
    (s₀ s₁ s₂ s₃ s₄ : σ) : Prop where
  asked : Target.secret? key = .ok path
  holds : held s₀ path = some m
  /-- The key that stands in the manifest leads to it, too. -/
  leads : Target.secret? m.key = .ok path
  read : api.read key s₀ = (.ok (some o), s₁)
  writtenEarly : held s₂ = heldAfter early (held s₁)
  fetched : api.fetch changed.key s₂ = (found, s₃)
  writtenLate : held s₄ = heldAfter late (held s₃)
  versioned : none ∉ m.version :: versionsAt path (early ++ late)
  fresh : (m.version :: versionsAt path (early ++ late)).Nodup

/-- The server refuses a manifest, with the contents of an object put into it, as one that has changed. -/
def AnswersConflict (api : SecretApi σ) (o : ManagedObject) (found : Except ClusterError (Option Manifest)) (s : σ) : Prop :=
  ∃ path m status, Target.secret? o.key = .ok path ∧ found = .ok (some m) ∧
    (api.put path (m.apply o) s).1 = .error status ∧ status.code = 409

end SecretApi

/-! ## Writes of others -/

theorem heldAfter_append (early late : List ManifestWrite) (held : Holdings) :
    heldAfter (early ++ late) held = heldAfter late (heldAfter early held) :=
  List.foldl_append

/-- A secret that others may have written is as it was, if nobody did, or as one of them left it. -/
theorem heldAfter_cases (writes : List ManifestWrite) (held : Holdings) (path : String) :
    (∀ w ∈ writes, w.path ≠ path) ∧ heldAfter writes held path = held path ∨
      ∃ w ∈ writes, w.path = path ∧ heldAfter writes held path = w.left := by
  induction writes generalizing held with
  | nil => exact .inl ⟨fun _ h => absurd h List.not_mem_nil, rfl⟩
  | cons w writes ih =>
    have hcons : heldAfter (w :: writes) held = heldAfter writes (w.apply held) := rfl
    rw [hcons]
    rcases ih (w.apply held) with ⟨hothers, hsame⟩ | ⟨last, hlast, hpath, hleft⟩
    · by_cases hw : w.path = path
      · refine .inr ⟨w, List.mem_cons_self, hw, ?_⟩
        rw [hsame, ManifestWrite.apply, if_pos hw.symm]
      · refine .inl ⟨List.forall_mem_cons.mpr ⟨hw, hothers⟩, ?_⟩
        rw [hsame, ManifestWrite.apply, if_neg (Ne.symm hw)]
    · exact .inr ⟨last, List.mem_cons_of_mem w hlast, hpath, hleft⟩

theorem mem_versionsAt {path : String} {writes : List ManifestWrite} {w : ManifestWrite} {m : Manifest} (hw : w ∈ writes)
    (hpath : w.path = path) (hleft : w.left = some m) : m.version ∈ versionsAt path writes := by
  refine List.mem_filterMap.mpr ⟨w, hw, ?_⟩
  rw [if_pos hpath, hleft]
  rfl

/-! ## Requests -/

namespace SecretApi

variable {σ : Type} {api : SecretApi σ} {held : σ → Holdings} {key : ObjectKey} {path : String} {s s' : σ}

namespace Guarded

variable (h : api.Guarded held)

include h

theorem fetch {found : Except ClusterError (Option Manifest)} (hpath : Target.secret? key = .ok path)
    (hfetch : api.fetch key s = (found, s')) :
    held s' = held s ∧ ∀ m, found = .ok (some m) → held s path = some m := by
  rw [SecretApi.fetch, hpath] at hfetch
  dsimp only at hfetch
  split at hfetch
  · rename_i m s₁ hget
    cases hfetch
    refine ⟨h.get_keeps hget, fun m' hm' => ?_⟩
    cases hm'
    exact h.get_held hget
  · rename_i status s₁ hget
    cases hfetch
    refine ⟨h.get_keeps hget, fun m' hm' => ?_⟩
    split at hm' <;> cases hm'

theorem read {o : ManagedObject} (hpath : Target.secret? key = .ok path) (hread : api.read key s = (.ok (some o), s')) :
    held s' = held s ∧ ∃ m, held s path = some m ∧ o = m.object := by
  rw [SecretApi.read] at hread
  split at hread
  · rename_i found s₁ hfetch
    obtain ⟨hkeeps, hfound⟩ := h.fetch hpath hfetch
    cases found with
    | none => cases hread
    | some m =>
      cases hread
      exact ⟨hkeeps, m, hfound m rfl, rfl⟩
  · cases hread

end Guarded

/-- All that the second half of a write can do, where the key of the object leads to a path: it ends before anything is put, or
a manifest that was found is put, or it is refused. -/
theorem writeBack_cases (api : SecretApi σ) {o : ManagedObject} (hpath : Target.secret? o.key = .ok path)
    (found : Except ClusterError (Option Manifest)) (s : σ) :
    ((∀ m, found ≠ .ok (some m)) ∧ ∃ cause, api.writeBack o found s = (.error cause, s) ∧
        (found = .error cause ∨ cause = .notFound o.key)) ∨
      ∃ m, found = .ok (some m) ∧
        ((∃ stored s', api.put path (m.apply o) s = (.ok stored, s') ∧ api.writeBack o found s = (.ok stored.object, s')) ∨
          ∃ status s', api.put path (m.apply o) s = (.error status, s') ∧
            api.writeBack o found s = (.error (if status.code = 409 then .conflict o.key else .ofStatus status), s')) := by
  match found with
  | .error cause => exact .inl ⟨fun m hm => (nomatch hm), cause, rfl, .inl rfl⟩
  | .ok none => exact .inl ⟨fun m hm => (nomatch hm), _, rfl, .inr rfl⟩
  | .ok (some m) =>
    refine .inr ⟨m, rfl, ?_⟩
    rw [writeBack, replace, hpath]
    dsimp only
    cases hput : api.put path (m.apply o) s with
    | mk answer s' =>
      cases answer with
      | ok stored => exact .inl ⟨stored, s', rfl, rfl⟩
      | error status => exact .inr ⟨status, s', rfl, rfl⟩

/-- A request for a manifest is never taken for one that came too late. -/
theorem exists_backend_of_fetch {cause : ClusterError} (h : api.fetch key s = (.error cause, s')) :
    ∃ message, cause.toStoreError = .backend message := by
  rw [fetch] at h
  split at h
  · cases h
    exact ⟨_, rfl⟩
  · split at h
    · cases h
    · split at h <;> cases h
      exact ⟨_, rfl⟩

namespace Overlapped

variable {m : Manifest} {o changed : ManagedObject} {found : Except ClusterError (Option Manifest)}
  {early late : List ManifestWrite} {s₀ s₁ s₂ s₃ s₄ : σ}

theorem held_eq (h : api.Overlapped held key path m o changed found early late s₀ s₁ s₂ s₃ s₄) (hapi : api.Guarded held)
    (hkey : Target.secret? changed.key = .ok path) : held s₄ = heldAfter (early ++ late) (held s₀) := by
  rw [h.writtenLate, (hapi.fetch hkey h.fetched).1, h.writtenEarly, (hapi.read h.asked h.read).1, ← heldAfter_append]

theorem object_eq (h : api.Overlapped held key path m o changed found early late s₀ s₁ s₂ s₃ s₄) (hapi : api.Guarded held) :
    o = m.object := by
  obtain ⟨-, m', hm', ho⟩ := hapi.read h.asked h.read
  obtain rfl : m = m' := Option.some.inj (h.holds.symm.trans hm')
  exact ho

/-- A manifest with the version that was read is only put where nobody has written since. It was found as it was read. -/
theorem not_written_of_put (h : api.Overlapped held key path m o changed found early late s₀ s₁ s₂ s₃ s₄)
    (hapi : api.Guarded held) (hkey : Target.secret? changed.key = .ok path) {sent stored : Manifest} {s₅ : σ}
    (hversion : sent.version = m.version) (hput : api.put path sent s₄ = (.ok stored, s₅)) :
    (∀ w ∈ early ++ late, w.path ≠ path) ∧ ∀ m', found = .ok (some m') → m' = m := by
  obtain ⟨current, hcurrent, hsame⟩ := hapi.put_over hput
  rw [h.held_eq hapi hkey] at hcurrent
  rcases heldAfter_cases (early ++ late) (held s₀) path with ⟨hnobody, -⟩ | ⟨w, hw, hpath, hleft⟩
  · refine ⟨hnobody, fun m' hm' => ?_⟩
    -- The early writes are among all of them, so the manifest was still held when it was fetched.
    have hfound := (hapi.fetch hkey h.fetched).2 m' hm'
    rw [h.writtenEarly, (hapi.read h.asked h.read).1] at hfound
    rcases heldAfter_cases early (held s₀) path with ⟨-, hheld⟩ | ⟨w, hw, hpath, -⟩
    · rw [hheld, h.holds] at hfound
      exact (Option.some.inj hfound).symm
    · exact absurd hpath (hnobody w (List.mem_append_left late hw))
  · -- What someone else has left carries another version than the one that is sent.
    have hmem : current.version ∈ versionsAt path (early ++ late) := mem_versionsAt hw hpath (hleft.symm.trans hcurrent)
    cases hread : m.version with
    | none => exact absurd (hread ▸ List.mem_cons_self) h.versioned
    | some version =>
      have hequal : current.version = m.version := (hsame version (hversion.trans hread)).trans hread.symm
      exact absurd (hequal ▸ hmem) (List.nodup_cons.mp h.fresh).1

end Overlapped

end SecretApi

/-! ## The server in memory -/

namespace Cluster

/-- What the server in memory holds. -/
def held (c : Cluster) : Holdings := fun path => c.server.secrets[path]?

end Cluster

namespace Server

variable {s s' : Server} {path : String}

theorem secrets_receive (s : Server) (request : Request) : (s.receive request).2.secrets = s.secrets := by
  rw [receive]
  split <;> rfl

theorem get_cases {answer : Except ApiStatus Manifest} (h : s.get path = (answer, s')) :
    s'.secrets = s.secrets ∧ ∀ m, answer = .ok m → s.secrets[path]? = some m := by
  have hsecrets := secrets_receive s (.get path)
  rw [get] at h
  split at h
  · rename_i status received hreceive
    cases h
    rw [hreceive] at hsecrets
    exact ⟨hsecrets, fun m hm => nomatch hm⟩
  · rename_i received hreceive
    rw [hreceive] at hsecrets
    dsimp only at hsecrets
    rw [hsecrets] at h
    split at h
    · rename_i m hm
      cases h
      exact ⟨hsecrets, fun m' hm' => Except.ok.inj hm' ▸ hm⟩
    · cases h
      exact ⟨hsecrets, fun m hm => nomatch hm⟩

/-- A manifest is refused, or it is put over one with the version that was sent along. -/
theorem put_cases {m : Manifest} {answer : Except ApiStatus Manifest} (h : s.put path m = (answer, s')) :
    ((∃ status, answer = .error status) ∧ s'.secrets = s.secrets) ∨
      ∃ current, s.secrets[path]? = some current ∧ mayReplace current m = true ∧
        answer = .ok { m with version := some (nextVersion current.version) } ∧
        s'.secrets = s.secrets.insert path { m with version := some (nextVersion current.version) } := by
  have hsecrets := secrets_receive s (.put path m.version)
  rw [put] at h
  split at h
  · rename_i status received hreceive
    cases h
    rw [hreceive] at hsecrets
    exact .inl ⟨⟨status, rfl⟩, hsecrets⟩
  · rename_i received hreceive
    rw [hreceive] at hsecrets
    dsimp only at hsecrets
    rw [hsecrets] at h
    split at h
    · cases h
      exact .inl ⟨⟨_, rfl⟩, hsecrets⟩
    · rename_i current hcurrent
      by_cases hmay : mayReplace current m = true
      · rw [if_pos hmay] at h
        cases h
        exact .inr ⟨current, hcurrent, hmay, rfl, rfl⟩
      · rw [if_neg hmay] at h
        cases h
        exact .inl ⟨⟨_, rfl⟩, hsecrets⟩

theorem version_eq_of_mayReplace {current m : Manifest} {version : String} (h : mayReplace current m = true)
    (hversion : m.version = some version) : current.version = some version := by
  rw [mayReplace, hversion] at h
  exact beq_iff_eq.mp h

end Server

namespace Cluster

theorem held_of_insert {c c' : Cluster} {path : String} {m : Manifest}
    (h : c'.server.secrets = c.server.secrets.insert path m) : c'.held = (ManifestWrite.mk path (some m)).apply c.held := by
  funext other
  rw [held, h, Std.ExtTreeMap.getElem?_insert, ManifestWrite.apply]
  by_cases hother : other = path
  · simp [hother]
  · simp [hother, Ne.symm hother, held]

theorem api_get {path : String} {c c' : Cluster} {answer : Except ApiStatus Manifest} (h : api.get path c = (answer, c')) :
    c.server.get path = (answer, c'.server) := by
  cases h
  rfl

theorem api_put {path : String} {m : Manifest} {c c' : Cluster} {answer : Except ApiStatus Manifest}
    (h : api.put path m c = (answer, c')) : c.server.put path m = (answer, c'.server) := by
  cases h
  rfl

/-- The server in memory can be relied on, with all failures that it may be told. -/
theorem lawful_api : api.Lawful held where
  get_keeps h := by
    funext other
    exact congrArg (·[other]?) (Server.get_cases (api_get h)).1
  get_held h := (Server.get_cases (api_get h)).2 _ rfl
  put_over h := by
    rcases Server.put_cases (api_put h) with ⟨⟨status, hstatus⟩, -⟩ | ⟨current, hcurrent, hmay, -, -⟩
    · cases hstatus
    · exact ⟨current, hcurrent, fun version hversion => Server.version_eq_of_mayReplace hmay hversion⟩
  put_keeps {path m c stored c'} h := by
    rcases Server.put_cases (api_put h) with ⟨⟨status, hstatus⟩, -⟩ | ⟨current, -, -, hstored, hsecrets⟩
    · cases hstatus
    · cases hstored
      exact ⟨⟨_, rfl⟩, held_of_insert hsecrets⟩
  put_refused h := by
    rcases Server.put_cases (api_put h) with ⟨-, hsecrets⟩ | ⟨current, -, -, hstored, -⟩
    · funext other
      exact congrArg (·[other]?) hsecrets
    · cases hstored

end Cluster

namespace SecretApi

variable {σ : Type} {api : SecretApi σ} {held : σ → Holdings} {key : ObjectKey} {path : String}

/-- **No write of others is lost.** A cycle reads a secret, evaluates it and writes it back, and others may write it, or
anything else, before and after the manifest is fetched for that. If the write goes through, nobody has written the secret
since it was read. It is held as it was read, up to its version, its annotations and its entries, and the last two are those
of the changed object. If it fails, all is held as the others left it, and the failure is a conflict exactly if the server
refused the manifest as one that has changed. -/
theorem no_write_lost (hapi : api.Lawful held) {g : Engine} {now : Instant} {e rest : Entropy} {v : Evaluation}
    {m : Manifest} {o changed : ManagedObject} {found : Except ClusterError (Option Manifest)}
    {early late : List ManifestWrite} {s₀ s₁ s₂ s₃ s₄ : σ}
    (hover : api.Overlapped held key path m o changed found early late s₀ s₁ s₂ s₃ s₄)
    (heval : g.evaluate o now e = .ok (v, rest)) (hchanged : v.object = some changed) :
    match api.writeBack changed found s₄ with
    | (.ok stored, s₅) =>
      (∀ w ∈ early ++ late, w.path ≠ path) ∧ ∃ version,
        let kept := { m with version := some version, annotations := some changed.annotations, data := some changed.data }
        held s₅ = (ManifestWrite.mk path (some kept)).apply (heldAfter (early ++ late) (held s₀)) ∧
          kept.object.annotations = changed.annotations ∧ kept.object.data = changed.data ∧ stored = kept.object
    | (.error cause, s₅) =>
      held s₅ = heldAfter (early ++ late) (held s₀) ∧
        (api.AnswersConflict changed found s₄ ∧ cause.toStoreError = .conflict changed.key.render ∨
          ¬ api.AnswersConflict changed found s₄ ∧ ∃ message, cause.toStoreError = .backend message) := by
  obtain ⟨reports, -, -, rfl⟩ := Engine.exists_reports_of_evaluate heval
  obtain ⟨-, hkey, hversion, -, -⟩ := Evaluation.of_object_eq_some hchanged
  have ho := hover.object_eq hapi.toGuarded
  have hpath : Target.secret? changed.key = .ok path := by rw [hkey, ho]; exact hover.leads
  have hheld := hover.held_eq hapi.toGuarded hpath
  rcases writeBack_cases api hpath found s₄ with
    ⟨hnone, cause, hwrite, hcause⟩ | ⟨m', rfl, ⟨stored, s₅, hput, hwrite⟩ | ⟨status, s₅, hput, hwrite⟩⟩
  · -- Nothing was put, so that no answer to that can have been a conflict.
    rw [hwrite]
    refine ⟨hheld, .inr ⟨fun ⟨_, m', _, _, hm', _⟩ => hnone m' hm', ?_⟩⟩
    rcases hcause with rfl | rfl
    · exact exists_backend_of_fetch hover.fetched
    · exact ⟨_, rfl⟩
  · -- The manifest went out with the version that was read, so the server has held that version all the time.
    rw [hwrite]
    have hsent : (m'.apply changed).version = m.version := by rw [Manifest.apply, hversion, ho]; rfl
    obtain ⟨hnobody, hsame⟩ := hover.not_written_of_put hapi.toGuarded hpath hsent hput
    obtain rfl := hsame m' rfl
    obtain ⟨⟨version, rfl⟩, hput⟩ := hapi.put_keeps hput
    exact ⟨hnobody, version, hheld ▸ hput, rfl, rfl, rfl⟩
  · rw [hwrite]
    refine ⟨(hapi.put_refused hput).trans hheld, ?_⟩
    by_cases hcode : status.code = 409
    · refine .inl ⟨⟨path, m', status, hpath, rfl, by rw [hput], hcode⟩, ?_⟩
      rw [if_pos hcode]
      rfl
    · refine .inr ⟨fun ⟨path', m'', status', hpath', hm'', hput', hcode'⟩ => ?_, ?_⟩
      · obtain rfl : path = path' := Except.ok.inj (hpath.symm.trans hpath')
        cases hm''
        rw [hput] at hput'
        cases hput'
        exact hcode hcode'
      · rw [if_neg hcode]
        exact ⟨_, rfl⟩

/-- A secret that asks for a password, in a certain environment. -/
def labelled (version environment : String) : Manifest where
  space := some "default"
  name := some "db"
  version := some version
  annotations := some (.ofList [(Annotations.autogenerate, "password")])
  data := none
  metadata := [("labels", .object [("environment", .string environment)])]
  members := [("type", .string "Opaque")]

/-- The path of that secret. -/
def labelledPath : String := "/api/v1/namespaces/default/secrets/db"

/-- A cluster with that secret alone, after some requests. -/
def single (m : Manifest) (log : List Request) : Cluster where
  server := ⟨.ofList [(labelledPath, m)], [], log⟩
  recorder := []
  reporter := Cluster.controller
  now := .ofSeconds 43200

theorem held_single (m : Manifest) (log : List Request) :
    (single m log).held = (ManifestWrite.mk labelledPath (some m)).apply fun _ => none := by
  funext other
  rw [Cluster.held, single, ManifestWrite.apply, Std.ExtTreeMap.ofList_singleton]
  by_cases hother : other = labelledPath
  · simp [hother]
  · simp [hother, Ne.symm hother]

/-- The secret is moved to production after its manifest was fetched to be written. -/
theorem overlapped_labelled {changed : ManagedObject} (hkey : changed.key = (labelled "7" "test").key) :
    Cluster.api.Overlapped Cluster.held (labelled "7" "test").key labelledPath (labelled "7" "test")
      (labelled "7" "test").object changed (.ok (some (labelled "7" "test"))) []
      [⟨labelledPath, some (labelled "8" "production")⟩] (single (labelled "7" "test") [])
      (single (labelled "7" "test") [.get labelledPath]) (single (labelled "7" "test") [.get labelledPath])
      (single (labelled "7" "test") [.get labelledPath, .get labelledPath]) (single (labelled "8" "production") []) where
  asked := by decide +kernel
  holds := rfl
  leads := by decide +kernel
  read := by with_unfolding_all rfl
  writtenEarly := rfl
  fetched := by
    rw [hkey]
    with_unfolding_all rfl
  writtenLate := by
    rw [held_single, held_single]
    funext other
    by_cases hother : other = labelledPath <;> simp [heldAfter, ManifestWrite.apply, hother]
  versioned := by decide
  fresh := by decide

/-- Nobody writes the secret while its password is generated. -/
theorem overlapped_labelled_alone {changed : ManagedObject} (hkey : changed.key = (labelled "7" "test").key) :
    Cluster.api.Overlapped Cluster.held (labelled "7" "test").key labelledPath (labelled "7" "test")
      (labelled "7" "test").object changed (.ok (some (labelled "7" "test"))) [] [] (single (labelled "7" "test") [])
      (single (labelled "7" "test") [.get labelledPath]) (single (labelled "7" "test") [.get labelledPath])
      (single (labelled "7" "test") [.get labelledPath, .get labelledPath])
      (single (labelled "7" "test") [.get labelledPath, .get labelledPath]) where
  asked := by decide +kernel
  holds := rfl
  leads := by decide +kernel
  read := by with_unfolding_all rfl
  writtenEarly := rfl
  fetched := by
    rw [hkey]
    with_unfolding_all rfl
  writtenLate := rfl
  versioned := by decide
  fresh := by decide

/-- A password is generated for the secret, and can be written while the secret stays as it is. -/
theorem exists_changed_labelled :
    ∃ (v : Evaluation) (rest : Entropy) (changed : ManagedObject),
      Engine.builtIn.evaluate (labelled "7" "test").object (.ofSeconds 43200) ⟨fun _ => 0, 0⟩ = .ok (v, rest) ∧
      v.object = some changed ∧ changed.key = (labelled "7" "test").key ∧ changed.version = some "7" ∧
      (Cluster.api.writeBack changed (.ok (some (labelled "7" "test")))
        (single (labelled "7" "test") [.get labelledPath, .get labelledPath])).1.toOption.isSome = true := by
  have hsome : ∃ done ∈ (Engine.builtIn.evaluate (labelled "7" "test").object (.ofSeconds 43200) ⟨fun _ => 0, 0⟩).toOption,
      done.1.object.any (fun changed => (Cluster.api.writeBack changed (.ok (some (labelled "7" "test")))
        (single (labelled "7" "test") [.get labelledPath, .get labelledPath])).1.toOption.isSome) = true := by decide +kernel
  obtain ⟨⟨v, rest⟩, hdone, hobject⟩ := hsome
  have heval := eq_ok_of_mem_toOption hdone
  obtain ⟨changed, hchanged, hstored⟩ := (Option.any_eq_true _ _).mp hobject
  obtain ⟨reports, -, -, rfl⟩ := Engine.exists_reports_of_evaluate heval
  obtain ⟨-, hkey, hversion, -, -⟩ := Evaluation.of_object_eq_some hchanged
  exact ⟨_, rest, changed, heval, hchanged, hkey, hversion, hstored⟩

/-- Its password is written if nobody else writes it, and everything else stays. It is not written if the secret is moved in the
meantime, which stays as it was moved. -/
theorem no_write_lost_labelled :
    ∃ (v : Evaluation) (rest : Entropy) (changed : ManagedObject),
      Engine.builtIn.evaluate (labelled "7" "test").object (.ofSeconds 43200) ⟨fun _ => 0, 0⟩ = .ok (v, rest) ∧
      v.object = some changed ∧
      (∃ (stored : ManagedObject) (c : Cluster) (version : String),
        Cluster.api.writeBack changed (.ok (some (labelled "7" "test")))
          (single (labelled "7" "test") [.get labelledPath, .get labelledPath]) = (.ok stored, c) ∧
        c.held labelledPath = some { labelled "7" "test" with
          version := some version, annotations := some changed.annotations, data := some changed.data }) ∧
      ∃ (cause : ClusterError) (c : Cluster),
        Cluster.api.writeBack changed (.ok (some (labelled "7" "test"))) (single (labelled "8" "production") []) =
          (.error cause, c) ∧
        c.held labelledPath = some (labelled "8" "production") := by
  obtain ⟨v, rest, changed, heval, hchanged, hkey, -, hstored⟩ := exists_changed_labelled
  refine ⟨v, rest, changed, heval, hchanged, ?_, ?_⟩
  · have hlost := no_write_lost Cluster.lawful_api (overlapped_labelled_alone hkey) heval hchanged
    cases hwrite : Cluster.api.writeBack changed (.ok (some (labelled "7" "test")))
      (single (labelled "7" "test") [.get labelledPath, .get labelledPath]) with
    | mk answer c =>
      rw [hwrite] at hlost hstored
      cases answer with
      | ok stored =>
        obtain ⟨-, version, hheld, -⟩ := hlost
        exact ⟨stored, c, version, rfl, (congrFun hheld labelledPath).trans (if_pos rfl)⟩
      | error cause => cases hstored
  · have hlost := no_write_lost Cluster.lawful_api (overlapped_labelled hkey) heval hchanged
    cases hwrite : Cluster.api.writeBack changed (.ok (some (labelled "7" "test"))) (single (labelled "8" "production") []) with
    | mk answer c =>
      rw [hwrite] at hlost
      cases answer with
      | ok stored => exact absurd rfl (hlost.1 _ List.mem_cons_self)
      | error cause => exact ⟨cause, c, rfl, congrFun hlost.1 labelledPath⟩

/-! ## Servers that cannot be believed -/

/-- A server that stores what may be put, as a version that it has not had before, and then fails to say so. -/
def mute : SecretApi Holdings where
  get path held := ((held path).elim (.error (.notFound path)) .ok, held)
  put path m held :=
    match held path with
    | none => (.error (.notFound path), held)
    | some current =>
      if Server.mayReplace current m then
        (.error ⟨500, "etcdserver: request timed out", "InternalError"⟩,
          (ManifestWrite.mk path (some { m with version := some (current.version.getD "" ++ "0") })).apply held)
      else (.error (.conflict path), held)

/-- It puts a manifest only over one with the version sent along: it never says that it has put any. -/
theorem guarded_mute : mute.Guarded id where
  get_keeps h := by
    cases h
    rfl
  get_held {path held m held'} h := by
    have hanswer := congrArg Prod.fst h
    dsimp only [mute] at hanswer
    cases hheld : held path with
    | none => simp [hheld] at hanswer
    | some current => simpa [hheld] using hanswer
  put_over {path m held stored held'} h := by
    have hanswer := congrArg Prod.fst h
    dsimp only [mute] at hanswer
    split at hanswer
    · cases hanswer
    · split at hanswer <;> cases hanswer

theorem mute_put_of_mayReplace {path : String} {current m : Manifest} {held : Holdings} (hheld : held path = some current)
    (hmay : Server.mayReplace current m = true) :
    mute.put path m held = (.error ⟨500, "etcdserver: request timed out", "InternalError"⟩,
      (ManifestWrite.mk path (some { m with version := some (current.version.getD "" ++ "0") })).apply held) := by
  simp only [mute, hheld, if_pos hmay]

theorem mute_put_of_not_mayReplace {path : String} {current m : Manifest} {held : Holdings} (hheld : held path = some current)
    (hmay : ¬ Server.mayReplace current m = true) : mute.put path m held = (.error (.conflict path), held) := by
  simp only [mute, hheld, if_neg hmay]

/-- What it stores in place of a manifest has a longer version, which it cannot have had before. -/
theorem length_version_lt_mute (path : String) (m : Manifest) (held : Holdings) (other : String) :
    (mute.put path m held).2 other = held other ∨
      ∃ current stored, held other = some current ∧ (mute.put path m held).2 other = some stored ∧
        (current.version.getD "").length < (stored.version.getD "").length := by
  cases hheld : held path with
  | none => exact .inl (by simp only [mute, hheld])
  | some current =>
    by_cases hmay : Server.mayReplace current m = true
    · rw [mute_put_of_mayReplace hheld hmay]
      by_cases hother : other = path
      · subst hother
        refine .inr ⟨current, _, hheld, if_pos rfl, ?_⟩
        rw [Option.getD_some, String.length_append]
        exact Nat.lt_add_of_pos_right (by decide)
      · exact .inl (if_neg hother)
    · exact .inl (by rw [mute_put_of_not_mayReplace hheld hmay])

/-- What it holds when nothing but the secret was stored. -/
def muteBefore : Holdings := (ManifestWrite.mk labelledPath (some (labelled "7" "test"))).apply fun _ => none

/-- Nobody else writes the secret. -/
theorem overlapped_mute {changed : ManagedObject} (hkey : changed.key = (labelled "7" "test").key) :
    mute.Overlapped id (labelled "7" "test").key labelledPath (labelled "7" "test") (labelled "7" "test").object changed
      (.ok (some (labelled "7" "test"))) [] [] muteBefore muteBefore muteBefore muteBefore muteBefore where
  asked := by decide +kernel
  holds := rfl
  leads := by decide +kernel
  read := by with_unfolding_all rfl
  writtenEarly := rfl
  fetched := by
    rw [hkey]
    with_unfolding_all rfl
  writtenLate := rfl
  versioned := by decide
  fresh := by decide

/-- The document of a secret whose metadata has a member that clients do not know. -/
def placed : Json :=
  .object [("metadata", .object [
    ("name", .string "db"), ("namespace", .string "default"), ("resourceVersion", .string "7"), ("clusterName", .string "east")])]

/-- A server may give each manifest it stores a fresh version and refuse one with another version than the stored one as a
conflict, and a write may still fail that has changed what it holds. What the client does not know of a secret is not
stored again, whatever is written. -/
theorem exists_write_beyond_answer :
    (mute.Guarded id ∧
      (∀ (path version : String) (current m : Manifest) (held : Holdings), held path = some current →
        m.version = some version → current.version ≠ some version → mute.put path m held = (.error (.conflict path), held)) ∧
      (∀ (path : String) (m : Manifest) (held : Holdings) (other : String), (mute.put path m held).2 other = held other ∨
        ∃ current stored, held other = some current ∧ (mute.put path m held).2 other = some stored ∧
          (current.version.getD "").length < (stored.version.getD "").length) ∧
      ∃ (v : Evaluation) (rest : Entropy) (changed : ManagedObject) (left : Holdings) (cause : ClusterError),
        mute.Overlapped id (labelled "7" "test").key labelledPath (labelled "7" "test") (labelled "7" "test").object changed
          (.ok (some (labelled "7" "test"))) [] [] muteBefore muteBefore muteBefore muteBefore muteBefore ∧
        Engine.builtIn.evaluate (labelled "7" "test").object (.ofSeconds 43200) ⟨fun _ => 0, 0⟩ = .ok (v, rest) ∧
        v.object = some changed ∧ mute.writeBack changed (.ok (some (labelled "7" "test"))) muteBefore = (.error cause, left) ∧
        left ≠ muteBefore) ∧
    ∃ m, Manifest.ofJson? placed = some m ∧
      (placed.member? "metadata").bind (·.member? "clusterName") = some (.string "east") ∧
      ∀ o, ((m.apply o).toJson.member? "metadata").bind (·.member? "clusterName") = none := by
  refine ⟨⟨guarded_mute, ?stale, length_version_lt_mute, ?lost⟩, ?unknown⟩
  case stale =>
    intro path version current m held hheld hsent hother
    exact mute_put_of_not_mayReplace hheld fun hmay => hother (Server.version_eq_of_mayReplace hmay hsent)
  case lost =>
    obtain ⟨v, rest, changed, heval, hchanged, hkey, hversion, -⟩ := exists_changed_labelled
    have hpath : Target.secret? changed.key = .ok labelledPath := by
      rw [hkey]
      decide +kernel
    have hmay : Server.mayReplace (labelled "7" "test") ((labelled "7" "test").apply changed) = true := by
      rw [Server.mayReplace, Manifest.apply, hversion]
      rfl
    have hput := @mute_put_of_mayReplace labelledPath _ _ muteBefore rfl hmay
    rcases writeBack_cases mute hpath (.ok (some (labelled "7" "test"))) muteBefore with
      ⟨hnone, -⟩ | ⟨m, hm, ⟨stored, left, hstored, -⟩ | ⟨status, left, hrefused, hwrite⟩⟩
    · exact absurd rfl (hnone _)
    · cases hm
      cases hput.symm.trans hstored
    · cases hm
      cases hput.symm.trans hrefused
      refine ⟨v, rest, changed, _, _, overlapped_mute hkey, heval, hchanged, hwrite, fun hleft => ?_⟩
      -- What is held has got another version, at least.
      have hsame := congrArg (Option.map Manifest.version) (congrFun hleft labelledPath)
      change some (some ("7" ++ "0")) = some (some "7") at hsame
      exact absurd hsame (by decide)
  case unknown =>
    refine ⟨_, rfl, rfl, fun ⟨key, version, annotations, data⟩ => ?_⟩
    cases version <;> rfl

end SecretApi

end SecretRotation
