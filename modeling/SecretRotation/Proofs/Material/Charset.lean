import Mathlib.Algebra.Order.Floor.Div
import Mathlib.Data.Int.CardIntervalMod
import Mathlib.Data.Set.Card
import SecretRotation.Material.Charset

/-!
# Which random texts there are, and how often

One byte chooses each character of a random text, so that the texts are those over the characters that bytes can choose:
the first 256 of the charset. If the charset has `n` characters, all of them different, a character is chosen by `256 / n` of
the bytes, rounded up or down. For a text these numbers are multiplied.

## Main results

* `Charset.exists_pick_iff`, `Charset.exists_spell_iff`: the characters that bytes choose, and the texts that they spell.
* `Charset.ncard_pick`: the number of bytes that choose a character.
* `Charset.ncard_spell_cons`: the rows of bytes that spell a text are counted character by character.
* `Charset.randomText_spread`: the random texts of a length, and the bounds on their bias.
-/

namespace SecretRotation

/-- Any row of bytes may be drawn. -/
theorem Entropy.exists_next_eq (bytes : List UInt8) : ∃ e : Entropy, e.next bytes.length = bytes := by
  refine ⟨⟨fun i => bytes.getD i 0, 0⟩, List.ext_getElem (length_next _ _) fun i hi hi' => ?_⟩
  simp [next, List.getD_eq_getElem?_getD, List.getElem?_eq_getElem hi']

namespace Charset

variable {alphabet text : List Char} {h : 0 < alphabet.length} {c : Char}

/-! ## Which texts there are -/

/-- Bytes choose the first 256 characters. -/
theorem exists_pick_iff : (∃ b, pick alphabet h b = c) ↔ c ∈ alphabet.take 256 := by
  rw [List.mem_take_iff_getElem]
  constructor
  · rintro ⟨b, rfl⟩
    have hplace : b.toNat % alphabet.length < alphabet.length := Nat.mod_lt _ h
    have hbyte : b.toNat % alphabet.length < 256 := Nat.lt_of_le_of_lt (Nat.mod_le _ _) b.toNat_lt
    exact ⟨b.toNat % alphabet.length, Nat.lt_min.mpr ⟨hbyte, hplace⟩, rfl⟩
  · rintro ⟨i, hi, rfl⟩
    obtain ⟨hbyte, hplace⟩ := Nat.lt_min.mp hi
    refine ⟨UInt8.ofNat i, ?_⟩
    simp only [pick, List.get_eq_getElem, UInt8.toNat_ofNat_of_lt' hbyte, Nat.mod_eq_of_lt hplace]

/-- Rows of bytes spell the texts over those characters. -/
theorem exists_spell_iff : (∃ bytes, spell alphabet h bytes = text) ↔ ∀ c ∈ text, c ∈ alphabet.take 256 := by
  induction text with
  | nil => simp [spell]
  | cons c text ih =>
    rw [List.forall_mem_cons, ← ih, ← exists_pick_iff (h := h)]
    constructor
    · rintro ⟨bytes, hspell⟩
      obtain ⟨b, bytes, rfl, hpick, hrest⟩ := List.map_eq_cons_iff.mp hspell
      exact ⟨⟨b, hpick⟩, bytes, hrest⟩
    · rintro ⟨⟨b, hpick⟩, bytes, hrest⟩
      exact ⟨b :: bytes, by rw [spell, List.map_cons, hpick, ← spell, hrest]⟩

theorem length_spell (bytes : List UInt8) : (spell alphabet h bytes).length = bytes.length := List.length_map ..

/-! ## How often -/

/-- Bytes are counted by their numbers. -/
theorem ncard_bytes (p : Nat → Prop) [DecidablePred p] : {b : UInt8 | p b.toNat}.ncard = Nat.count p 256 := by
  have himage : UInt8.toNat '' {b | p b.toNat} = ↑((Finset.range 256).filter p) := by
    ext n
    simp only [Set.mem_image, Set.mem_ofPred_eq, Finset.coe_filter, Finset.mem_range]
    constructor
    · rintro ⟨b, hb, rfl⟩
      exact ⟨b.toNat_lt, hb⟩
    · rintro ⟨hn, hp⟩
      have hbyte : (UInt8.ofNat n).toNat = n := UInt8.toNat_ofNat_of_lt' hn
      exact ⟨UInt8.ofNat n, hbyte.symm ▸ hp, hbyte⟩
  rw [← Set.ncard_image_of_injective _ fun a b => UInt8.toNat_inj.mp, himage, Set.ncard_coe_finset,
    Nat.count_eq_card_filter_range]

/-- A character of a charset without repetitions is chosen by the bytes that leave its place over. -/
theorem ncard_pick (hnodup : alphabet.Nodup) {i : Nat} (hi : i < alphabet.length) :
    {b | pick alphabet h b = alphabet[i]}.ncard =
      256 / alphabet.length + if i < 256 % alphabet.length then 1 else 0 := by
  have hbytes : {b | pick alphabet h b = alphabet[i]} = {b : UInt8 | b.toNat ≡ i [MOD alphabet.length]} := by
    ext b
    rw [Set.mem_ofPred_eq, Set.mem_ofPred_eq, pick, List.get_eq_getElem, hnodup.getElem_inj_iff, Nat.ModEq,
      Nat.mod_eq_of_lt hi]
  rw [hbytes, ncard_bytes fun n => n ≡ i [MOD alphabet.length], Nat.count_modEq_card 256 h, Nat.mod_eq_of_lt hi]

/-- The number of bytes for a character is the quotient, rounded up or down. -/
theorem ncard_pick_bounds (hnodup : alphabet.Nodup) (hc : c ∈ alphabet) :
    256 / alphabet.length ≤ {b | pick alphabet h b = c}.ncard ∧
      {b | pick alphabet h b = c}.ncard ≤ 256 ⌈/⌉ alphabet.length := by
  obtain ⟨i, hi, rfl⟩ := List.mem_iff_getElem.mp hc
  rw [ncard_pick hnodup hi]
  refine ⟨Nat.le_add_right _ _, ?_⟩
  have hparts := Nat.div_add_mod' 256 alphabet.length
  rw [Nat.ceilDiv_eq_add_pred_div, Nat.le_div_iff_mul_le h, Nat.add_mul]
  split <;> omega

/-- The rows of bytes that spell a text are counted character by character. -/
theorem ncard_spell_cons (c : Char) (text : List Char) :
    {bytes | spell alphabet h bytes = c :: text}.ncard =
      {b | pick alphabet h b = c}.ncard * {bytes | spell alphabet h bytes = text}.ncard := by
  have hrows : {bytes | spell alphabet h bytes = c :: text} =
      (fun row : UInt8 × List UInt8 => row.1 :: row.2) ''
        ({b | pick alphabet h b = c} ×ˢ {bytes | spell alphabet h bytes = text}) := by
    ext bytes
    rw [Set.mem_ofPred_eq, spell, List.map_eq_cons_iff]
    constructor
    · rintro ⟨b, bytes, rfl, hpick, hrest⟩
      exact ⟨(b, bytes), ⟨hpick, hrest⟩, rfl⟩
    · rintro ⟨⟨b, bytes⟩, ⟨hpick, hrest⟩, rfl⟩
      exact ⟨b, bytes, rfl, hpick, hrest⟩
  have hinjective : Function.Injective fun row : UInt8 × List UInt8 => row.1 :: row.2 := by
    rintro ⟨b, bytes⟩ ⟨b', bytes'⟩ heq
    obtain ⟨rfl, rfl⟩ := List.cons.inj heq
    rfl
  rw [hrows, Set.ncard_image_of_injective _ hinjective, Set.ncard_prod]

theorem ncard_spell_nil : {bytes | spell alphabet h bytes = []}.ncard = 1 := by
  have hrows : {bytes | spell alphabet h bytes = []} = {[]} := by
    ext bytes
    simp [spell]
  rw [hrows, Set.ncard_singleton]

theorem ncard_spell_bounds (hnodup : alphabet.Nodup) (htext : ∀ c ∈ text, c ∈ alphabet) :
    (256 / alphabet.length) ^ text.length ≤ {bytes | spell alphabet h bytes = text}.ncard ∧
      {bytes | spell alphabet h bytes = text}.ncard ≤ (256 ⌈/⌉ alphabet.length) ^ text.length := by
  induction text with
  | nil => simp [ncard_spell_nil]
  | cons c text ih =>
    obtain ⟨hc, htext⟩ := List.forall_mem_cons.mp htext
    obtain ⟨hleast, hmost⟩ := ncard_pick_bounds (h := h) hnodup hc
    obtain ⟨hleastRest, hmostRest⟩ := ih htext
    rw [ncard_spell_cons, List.length_cons, Nat.pow_succ', Nat.pow_succ']
    exact ⟨Nat.mul_le_mul hleast hleastRest, Nat.mul_le_mul hmost hmostRest⟩

/-! ## Drawn bytes -/

/-- A random text is what the bytes drawn for it spell. -/
theorem randomText_eq_ok {charset : String} {length : Nat} (hlength : length ≠ 0) (h : 0 < charset.toList.length)
    (e : Entropy) :
    randomText charset length e =
      .ok ((String.ofList (spell charset.toList h (e.next length))).toUTF8, e.skip length) := by
  rw [randomText, if_neg hlength]
  exact dif_pos h

/-- **Random texts and their bias.** With a charset that is not empty, a random text of some length is a function of as many
bytes, and any such row of bytes may be drawn. The values of that function are the UTF-8 forms of the texts of this length
over the first 256 characters of the charset. If the charset has `n` characters, all of them different, each text
over it comes from at least `(256 / n) ^ length` rows of bytes, rounded down within the brackets, and from at most as many
rounded up. -/
theorem randomText_spread (charset : String) (length : Nat) (hcharset : charset ≠ "") (hlength : 0 < length) :
    ∃ value : List UInt8 → ByteArray,
      (∀ e, randomText charset length e = .ok (value (e.next length), e.skip length)) ∧
      (∀ bytes : List UInt8, bytes.length = length → ∃ e : Entropy, e.next length = bytes) ∧
      value '' {bytes | bytes.length = length} =
        {v | ∃ text : String, text.length = length ∧ (∀ c ∈ text.toList, c ∈ charset.toList.take 256) ∧ v = text.toUTF8} ∧
      (charset.toList.Nodup →
        ∀ text : String, text.length = length → (∀ c ∈ text.toList, c ∈ charset.toList) →
          (256 / charset.length) ^ length ≤ {bytes | bytes.length = length ∧ value bytes = text.toUTF8}.ncard ∧
            {bytes | bytes.length = length ∧ value bytes = text.toUTF8}.ncard ≤ (256 ⌈/⌉ charset.length) ^ length) := by
  have h : 0 < charset.toList.length := List.length_pos_iff.mpr (mt String.toList_eq_nil_iff.mp hcharset)
  have hvalue : ∀ (bytes : List UInt8) (text : String),
      (String.ofList (spell charset.toList h bytes)).toUTF8 = text.toUTF8 ↔ spell charset.toList h bytes = text.toList := by
    intro bytes text
    rw [String.toUTF8_eq_toByteArray, String.toUTF8_eq_toByteArray, String.toByteArray_inj, ← String.toList_inj,
      String.toList_ofList]
  refine ⟨fun bytes => (String.ofList (spell charset.toList h bytes)).toUTF8,
    randomText_eq_ok (Nat.ne_of_gt hlength) h, ?_, ?_, fun hnodup text htext hover => ?_⟩
  · rintro bytes rfl
    exact Entropy.exists_next_eq bytes
  · ext v
    constructor
    · rintro ⟨bytes, hbytes, rfl⟩
      refine ⟨_, ?_, ?_, rfl⟩
      · rw [String.length_ofList, length_spell]
        exact hbytes
      · rw [String.toList_ofList]
        exact exists_spell_iff.mp ⟨bytes, rfl⟩
    · rintro ⟨text, htext, hover, rfl⟩
      obtain ⟨bytes, hspell⟩ := (exists_spell_iff (h := h)).mpr hover
      refine ⟨bytes, ?_, (hvalue bytes text).mpr hspell⟩
      rw [Set.mem_ofPred_eq, ← length_spell (h := h), hspell, String.length_toList]
      exact htext
  · have hrows : {bytes | bytes.length = length ∧ (String.ofList (spell charset.toList h bytes)).toUTF8 = text.toUTF8} =
        {bytes | spell charset.toList h bytes = text.toList} := by
      ext bytes
      rw [Set.mem_ofPred_eq, Set.mem_ofPred_eq, hvalue]
      refine ⟨And.right, fun hspell => ⟨?_, hspell⟩⟩
      rw [← length_spell (h := h), hspell, String.length_toList]
      exact htext
    rw [hrows, ← htext, ← String.length_toList, ← String.length_toList]
    exact ncard_spell_bounds hnodup hover

/-- Each text of two letters out of three comes from 85 to 86 bytes a letter, although the letters take up one to three bytes
themselves. -/
theorem randomText_spread_threeLetters :
    "aé€" ≠ "" ∧ 0 < 2 ∧ ∃ value : List UInt8 → ByteArray,
      (∀ e, randomText "aé€" 2 e = .ok (value (e.next 2), e.skip 2)) ∧
      "€a".toUTF8 ∈ value '' {bytes | bytes.length = 2} ∧
      85 ^ 2 ≤ {bytes | bytes.length = 2 ∧ value bytes = "€a".toUTF8}.ncard ∧
      {bytes | bytes.length = 2 ∧ value bytes = "€a".toUTF8}.ncard ≤ 86 ^ 2 := by
  obtain ⟨value, hvalue, -, himage, hbias⟩ := randomText_spread "aé€" 2 (by decide) (by decide)
  obtain ⟨hleast, hmost⟩ := hbias (by decide) "€a" rfl (by simp)
  refine ⟨by decide, by decide, value, hvalue, ?_, hleast, hmost⟩
  rw [himage]
  exact ⟨"€a", rfl, by simp, rfl⟩

end Charset

end SecretRotation
