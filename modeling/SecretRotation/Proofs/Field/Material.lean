import SecretRotation.Field.Material

/-!
# Material is never empty

Whatever a generator makes for a field, none of the entries that it fills is empty. Whether it makes anything depends on
the settings of the field alone, as long as searches for keys are not given up.

## Main definitions

* `Generator.Delivers`: searches for keys with the settings of a field are never given up.
* `Generator.complaint?`: what a field's settings leave to complain about.

## Main results

* `Generator.size_ne_zero_of_produce`: the entries of material are not empty.
* `Generator.text_eq_error_iff`, `Generator.bytes_eq_error_iff`: when there is no material without keys.
* `Generator.produce_cases`, `Generator.produce_eq_error_iff`: when there is no material, and what is complained about.
* `Generator.produce_eq_error`: settings that fail once fail always.
-/

namespace SecretRotation

variable {g : Generator} {spec : FieldSpec} {e rest : Entropy}

theorem size_toUTF8_ne_zero {s : String} (h : s.toList ≠ []) : s.toUTF8.size ≠ 0 := by
  rw [String.toUTF8_eq_toByteArray, String.size_toByteArray]
  intro hsize
  rw [String.utf8ByteSize_eq_zero_iff.mp hsize] at h
  exact h rfl

theorem Pem.head?_encode (label : String) (data : List UInt8) : (encode label data).toList.head? = some '-' := by
  rw [encode, String.toList_ofList, boundary]
  simp [String.toList_append]

theorem Pem.toList_encode_ne_nil (label : String) (data : List UInt8) : (encode label data).toList ≠ [] := by
  simp [encode]

theorem PrivateKey.toList_privatePem_ne_nil (k : PrivateKey) : k.privatePem.expose.toList ≠ [] := by
  cases k <;> exact Pem.toList_encode_ne_nil _ _

theorem PrivateKey.toList_publicPem_ne_nil (k : PrivateKey) : k.publicPem.toList ≠ [] := by
  cases k <;> exact Pem.toList_encode_ne_nil _ _

theorem PrivateKey.head?_publicPem (k : PrivateKey) : k.publicPem.toList.head? = some '-' := by
  cases k <;> exact Pem.head?_encode _ _

theorem exists_of_map_eq_ok {α β : Type} {f : α → β} {x : Generated α} {b : β} (h : x.map f = .ok (b, rest)) :
    ∃ a, x = .ok (a, rest) ∧ f a = b := by
  cases x with
  | error cause => cases h
  | ok found =>
    obtain ⟨a, rest'⟩ := found
    cases h
    exact ⟨a, rfl, rfl⟩

theorem map_eq_error_iff {α β : Type} {f : α → β} {x : Generated α} {cause : GeneratorError} :
    x.map f = .error cause ↔ x = .error cause := by
  cases x <;> simp [Generated.map]

/-- A random text has the length asked for, and all its characters are of the charset. -/
theorem Charset.exists_chars_of_randomText {charset : String} {length : Nat} {bytes : ByteArray}
    (h : randomText charset length e = .ok (bytes, rest)) :
    ∃ cs : List Char,
      bytes = (String.ofList cs).toUTF8 ∧ cs.length = length ∧ cs ≠ [] ∧ ∀ c ∈ cs, c ∈ charset.toList := by
  rw [randomText] at h
  by_cases hlength : length = 0
  · rw [if_pos hlength] at h
    cases h
  rw [if_neg hlength] at h
  by_cases halphabet : 0 < charset.toList.length
  · simp only [dif_pos halphabet, Entropy.draw] at h
    cases h
    have hspelled : (spell charset.toList halphabet (e.next length)).length = length := by
      rw [spell, List.length_map, Entropy.length_next]
    refine ⟨_, rfl, hspelled, fun hnil => hlength (by rw [← hspelled, hnil, List.length_nil]), fun c hc => ?_⟩
    obtain ⟨b, -, rfl⟩ := List.mem_map.mp hc
    exact List.get_mem _ _
  · rw [dif_neg halphabet] at h
    cases h

theorem Charset.size_ne_zero_of_randomText {charset : String} {length : Nat} {bytes : ByteArray}
    (h : randomText charset length e = .ok (bytes, rest)) : bytes.size ≠ 0 := by
  obtain ⟨cs, rfl, -, hne, -⟩ := exists_chars_of_randomText h
  exact size_toUTF8_ne_zero (by rwa [String.toList_ofList])

theorem size_ne_zero_of_randomBytes {length : Nat} {bytes : ByteArray} (h : randomBytes length e = .ok (bytes, rest)) :
    bytes.size ≠ 0 := by
  rw [randomBytes] at h
  by_cases hlength : length = 0
  · rw [if_pos hlength] at h
    cases h
  · simp only [if_neg hlength, Entropy.draw] at h
    cases h
    have hsize : (e.next length).toByteArray.size = length := by simp
    rwa [hsize]

namespace Generator

theorem size_ne_zero_of_produce {material : Material} {field : String}
    (h : g.produce spec e = .ok (material, rest)) : ∀ entry ∈ material.entries field, entry.2.expose.size ≠ 0 := by
  rw [produce] at h
  have hpair : ∀ k : PrivateKey, ∀ entry ∈ (Material.pair k).entries field, entry.2.expose.size ≠ 0 := by
    intro k entry hentry
    simp only [Material.entries, List.mem_cons, List.not_mem_nil, or_false] at hentry
    rcases hentry with rfl | rfl
    · exact size_toUTF8_ne_zero k.toList_privatePem_ne_nil
    · exact size_toUTF8_ne_zero k.toList_publicPem_ne_nil
  have hvalue : ∀ bytes : ByteArray, bytes.size ≠ 0 →
      ∀ entry ∈ (Material.value bytes).entries field, entry.2.expose.size ≠ 0 := by
    intro bytes hbytes entry hentry
    obtain rfl := List.mem_singleton.mp hentry
    exact hbytes
  split at h
  · cases h
  · obtain ⟨bytes, hbytes, rfl⟩ := exists_of_map_eq_ok h
    exact hvalue bytes (Charset.size_ne_zero_of_randomText hbytes)
  · obtain ⟨bytes, hbytes, rfl⟩ := exists_of_map_eq_ok h
    exact hvalue bytes (size_ne_zero_of_randomBytes hbytes)
  · obtain ⟨k, -, rfl⟩ := exists_of_map_eq_ok h
    exact hpair k
  · obtain ⟨k, -, rfl⟩ := exists_of_map_eq_ok h
    exact hpair k
  · obtain ⟨k, -, rfl⟩ := exists_of_map_eq_ok h
    exact hpair k

/-- Searches for keys with the settings of a field are never given up. -/
def Delivers (g : Generator) (spec : FieldSpec) : Prop :=
  ∀ e algorithm, g.produce spec e ≠ .error (.keySearchFailed algorithm)

/-- Texts fail for want of length or else of a charset. -/
theorem text_eq_error_iff {length : Nat} {cause : GeneratorError} :
    g.text length e = .error cause ↔
      length = 0 ∧ cause = .zeroLength ∨ length ≠ 0 ∧ g.charset = "" ∧ cause = .emptyCharset := by
  rw [text, Charset.randomText]
  by_cases hlength : length = 0
  · rw [if_pos hlength]
    simpa [hlength] using eq_comm
  · rw [if_neg hlength]
    by_cases halphabet : 0 < g.charset.toList.length
    · have hcharset : g.charset ≠ "" := fun hempty => by simp [hempty] at halphabet
      simp [halphabet, hlength, hcharset]
    · have hcharset : g.charset = "" :=
        String.toList_inj.mp (List.length_eq_zero_iff.mp (Nat.eq_zero_of_not_pos halphabet))
      simpa [hlength, hcharset] using eq_comm

theorem bytes_eq_error_iff {length : Nat} {cause : GeneratorError} :
    g.bytes length e = .error cause ↔ length = 0 ∧ cause = .zeroLength := by
  rw [bytes, randomBytes]
  by_cases hlength : length = 0
  · simpa [hlength] using eq_comm
  · simp [hlength]

theorem key_eq_error {request : KeyRequest} {cause : GeneratorError} (h : g.key request e = .error cause) :
    cause = .keySearchFailed request.algorithm := by
  rw [key] at h
  cases hkey : g.keys request e with
  | some found =>
    rw [hkey] at h
    cases h
  | none =>
    rw [hkey] at h
    cases h
    rfl

/-- What a field's settings leave to complain about, whatever the entropy. -/
def complaint? (g : Generator) (spec : FieldSpec) : Option GeneratorError :=
  match spec.kind with
  | .error cause => some cause
  | .ok .string => if spec.length = 0 then some .zeroLength else if g.charset = "" then some .emptyCharset else none
  | .ok .bytes => if spec.length = 0 then some .zeroLength else none
  | .ok .rsa => if spec.length < minRsaBits then some (.rsaTooSmall spec.length) else none
  | .ok .ecdsa => if NistCurve.ofName? spec.curve = none then some (.unsupportedCurve spec.curve) else none
  | .ok .ed25519 => none

theorem map_key_cases (g : Generator) (request : KeyRequest) (e : Entropy) :
    (∃ made, (g.key request e).map Material.pair = .ok made) ∨
      ∃ algorithm, (g.key request e).map Material.pair = .error (.keySearchFailed algorithm) := by
  cases hkey : g.key request e with
  | ok found => exact .inl ⟨_, rfl⟩
  | error cause => exact .inr ⟨request.algorithm, by rw [key_eq_error hkey]; rfl⟩

/-- Settings that leave something to complain about make no material. All others do, unless a search for a key is given up. -/
theorem produce_cases (g : Generator) (spec : FieldSpec) (e : Entropy) :
    (∃ cause, g.complaint? spec = some cause ∧ g.produce spec e = .error cause) ∨
      g.complaint? spec = none ∧
        ((∃ made, g.produce spec e = .ok made) ∨ ∃ algorithm, g.produce spec e = .error (.keySearchFailed algorithm)) := by
  cases hkind : spec.kind with
  | error complaint => exact .inl ⟨complaint, by simp [complaint?, hkind], by simp [produce, hkind]⟩
  | ok kind =>
    cases kind with
    | string =>
      by_cases hlength : spec.length = 0
      · exact .inl ⟨.zeroLength, by simp [complaint?, hkind, hlength],
          by simp [produce, hkind, map_eq_error_iff, text_eq_error_iff, hlength]⟩
      · by_cases hcharset : g.charset = ""
        · exact .inl ⟨.emptyCharset, by simp [complaint?, hkind, hlength, hcharset],
            by simp [produce, hkind, map_eq_error_iff, text_eq_error_iff, hlength, hcharset]⟩
        · refine .inr ⟨by simp [complaint?, hkind, hlength, hcharset], .inl ?_⟩
          cases htext : g.text spec.length e with
          | ok made => exact ⟨_, by simp only [produce, hkind, htext]; rfl⟩
          | error cause => simp [text_eq_error_iff, hlength, hcharset] at htext
    | bytes =>
      by_cases hlength : spec.length = 0
      · exact .inl ⟨.zeroLength, by simp [complaint?, hkind, hlength],
          by simp [produce, hkind, map_eq_error_iff, bytes_eq_error_iff, hlength]⟩
      · refine .inr ⟨by simp [complaint?, hkind, hlength], .inl ?_⟩
        cases hbytes : g.bytes spec.length e with
        | ok made => exact ⟨_, by simp only [produce, hkind, hbytes]; rfl⟩
        | error cause => simp [bytes_eq_error_iff, hlength] at hbytes
    | rsa =>
      by_cases hbits : spec.length < minRsaBits
      · exact .inl ⟨.rsaTooSmall spec.length, by simp [complaint?, hkind, hbits],
          by simp [produce, hkind, map_eq_error_iff, rsa, hbits]⟩
      · have hproduce : g.produce spec e = (g.key (.rsa spec.length) e).map .pair := by
          simp only [produce, hkind, rsa, if_neg hbits]
        exact .inr ⟨by simp [complaint?, hkind, hbits], hproduce ▸ g.map_key_cases _ e⟩
    | ecdsa =>
      cases hcurve : NistCurve.ofName? spec.curve with
      | none =>
        exact .inl ⟨.unsupportedCurve spec.curve, by simp [complaint?, hkind, hcurve],
          by simp [produce, hkind, map_eq_error_iff, ecdsa, NistCurve.parse, hcurve]⟩
      | some curve =>
        have hproduce : g.produce spec e = (g.key (.ec curve) e).map .pair := by
          simp only [produce, hkind, ecdsa, NistCurve.parse, hcurve]
        exact .inr ⟨by simp [complaint?, hkind, hcurve], hproduce ▸ g.map_key_cases _ e⟩
    | ed25519 =>
      have hproduce : g.produce spec e = (g.key .ed25519 e).map .pair := by
        simp only [produce, hkind, ed25519]
      exact .inr ⟨by simp [complaint?, hkind], hproduce ▸ g.map_key_cases _ e⟩

theorem complaint?_of_produce_eq_error {cause : GeneratorError} (h : g.produce spec e = .error cause)
    (hsearch : ∀ algorithm, cause ≠ .keySearchFailed algorithm) : g.complaint? spec = some cause := by
  rcases g.produce_cases spec e with ⟨complaint, hcomplaint, hproduce⟩ | ⟨-, ⟨made, hproduce⟩ | ⟨algorithm, hproduce⟩⟩
  · rw [hproduce] at h
    rw [hcomplaint, Except.error.inj h]
  · rw [hproduce] at h
    cases h
  · rw [hproduce] at h
    exact absurd (Except.error.inj h).symm (hsearch algorithm)

/-- Where searches for keys are not given up, material fails for the complaint about its settings and for nothing else. -/
theorem produce_eq_error_iff (hdelivers : g.Delivers spec) {cause : GeneratorError} :
    g.produce spec e = .error cause ↔ g.complaint? spec = some cause := by
  rcases g.produce_cases spec e with ⟨complaint, hcomplaint, hproduce⟩ | ⟨hnone, ⟨made, hproduce⟩ | ⟨algorithm, hproduce⟩⟩
  · simp [hcomplaint, hproduce]
  · simp [hnone, hproduce]
  · exact absurd hproduce (hdelivers e algorithm)

/-- Settings that fail once fail always. -/
theorem produce_eq_error (hdelivers : g.Delivers spec) {cause : GeneratorError} (h : g.produce spec e = .error cause)
    (e' : Entropy) : g.produce spec e' = .error cause :=
  (produce_eq_error_iff hdelivers).mpr ((produce_eq_error_iff hdelivers).mp h)

theorem delivers_of_not_isKeypair {kind : Kind} (hkind : spec.kind = .ok kind) (h : kind.isKeypair = false) :
    g.Delivers spec := by
  intro e algorithm hfailed
  cases kind with
  | string => simp [produce, hkind, map_eq_error_iff, text_eq_error_iff] at hfailed
  | bytes => simp [produce, hkind, map_eq_error_iff, bytes_eq_error_iff] at hfailed
  | rsa => cases h
  | ecdsa => cases h
  | ed25519 => cases h

theorem delivers_of_unknownKind {name : String} (hkind : spec.kind = .error (.unknownKind name)) : g.Delivers spec := by
  intro e algorithm hfailed
  simp [produce, hkind] at hfailed

/-- Keys of a fixed size are computed, not searched for. -/
theorem delivers_standard_of_ed25519 {charset : String} (hkind : spec.kind = .ok .ed25519) :
    (standard charset).Delivers spec := by
  intro e algorithm hfailed
  simp [produce, hkind, map_eq_error_iff, ed25519, key, standard, KeySource.standard] at hfailed

end Generator

end SecretRotation
