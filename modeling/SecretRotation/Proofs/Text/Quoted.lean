import SecretRotation.Text.Quoted

/-!
# Quoted texts can be told apart

Where a quoted text begins, it is known where it ends and what stands in it: no written form of a character begins another
one, and none begins with a quote.

## Main results

* `Text.escape_append_inj`: the first written character can be told from what follows it.
* `Text.quoted_append_inj`: so can the whole quoted text.
-/

namespace SecretRotation.Text

variable {c d : Char} {a b : List Char}

/-! ## Code points -/

theorem digitChar_inj {m n : Nat} (hm : m < 16) (hn : n < 16) (h : m.digitChar = n.digitChar) : m = n := by
  have hall : ∀ m < 16, ∀ n < 16, m.digitChar = n.digitChar → m = n := by decide
  exact hall m hm n hn h

/-- Numbers with the same digits in base sixteen are the same. -/
theorem toDigits_sixteen_inj {m n : Nat} (h : Nat.toDigits 16 m = Nat.toDigits 16 n) : m = n := by
  induction m using Nat.strongRecOn generalizing n with
  | ind m ih =>
    rcases Nat.lt_or_ge m 16 with hm | hm <;> rcases Nat.lt_or_ge n 16 with hn | hn
    · rw [Nat.toDigits_of_lt_base hm, Nat.toDigits_of_lt_base hn] at h
      exact digitChar_inj hm hn (List.singleton_inj.mp h)
    · rw [Nat.toDigits_of_lt_base hm, Nat.toDigits_of_base_le (by decide) hn] at h
      obtain ⟨hnil, -⟩ := List.append_inj' (show [] ++ [m.digitChar] = _ from h) rfl
      exact absurd hnil.symm Nat.toDigits_ne_nil
    · rw [Nat.toDigits_of_base_le (by decide) hm, Nat.toDigits_of_lt_base hn] at h
      obtain ⟨hnil, -⟩ := List.append_inj' (show _ = [] ++ [n.digitChar] from h) rfl
      exact absurd hnil Nat.toDigits_ne_nil
    · rw [Nat.toDigits_of_base_le (by decide) hm, Nat.toDigits_of_base_le (by decide) hn] at h
      obtain ⟨hfront, hlast⟩ := List.append_inj' h rfl
      have hquotient : m / 16 = n / 16 := ih (m / 16) (by omega) hfront
      have hrest : m % 16 = n % 16 := digitChar_inj (by omega) (by omega) (List.singleton_inj.mp hlast)
      omega

theorem hexCode_inj (h : hexCode c = hexCode d) : c = d :=
  Char.toNat_inj.mp (toDigits_sixteen_inj h)

theorem brace_not_mem_toDigits (n : Nat) : '\x7d' ∉ Nat.toDigits 16 n := by
  have hdigit : ∀ n < 16, '\x7d' ≠ n.digitChar := by decide
  induction n using Nat.strongRecOn with
  | ind n ih =>
    rcases Nat.lt_or_ge n 16 with hn | hn
    · rw [Nat.toDigits_of_lt_base hn, List.mem_singleton]
      exact hdigit n hn
    · rw [Nat.toDigits_of_base_le (by decide) hn, List.mem_append, List.mem_singleton, not_or]
      exact ⟨ih (n / 16) (by omega), hdigit (n % 16) (by omega)⟩

/-- A text up to a character that is not in it can be told from what follows. -/
theorem append_cons_inj {front front' : List Char} (hfront : c ∉ front) (hfront' : c ∉ front')
    (h : front ++ c :: a = front' ++ c :: b) : front = front' ∧ a = b := by
  induction front generalizing front' with
  | nil =>
    cases front' with
    | nil => exact ⟨rfl, (List.cons.inj h).2⟩
    | cons d front' =>
      obtain ⟨rfl, -⟩ := List.cons.inj h
      exact absurd List.mem_cons_self hfront'
  | cons d front ih =>
    cases front' with
    | nil =>
      obtain ⟨rfl, -⟩ := List.cons.inj h
      exact absurd List.mem_cons_self hfront
    | cons d' front' =>
      obtain ⟨rfl, hrest⟩ := List.cons.inj h
      obtain ⟨rfl, rfl⟩ := ih (fun hmem => hfront (List.mem_cons_of_mem _ hmem))
        (fun hmem => hfront' (List.mem_cons_of_mem _ hmem)) hrest
      exact ⟨rfl, rfl⟩

/-! ## Characters -/

/-- The characters that are written by a letter or a sign after a backslash. -/
def shortEscapes : List (Char × Char) :=
  [('"', '"'), ('\\', '\\'), ('\n', 'n'), ('\r', 'r'), ('\t', 't'), ('\x00', '0')]

/-- The written forms: a backslash and a sign for it, a backslash and the code, or the character itself. -/
theorem escape_cases (c : Char) :
    (∃ sign, (c, sign) ∈ shortEscapes ∧ escape c = ['\\', sign]) ∨
      escape c = '\\' :: 'u' :: '\x7b' :: (hexCode c ++ ['\x7d']) ∨ (c ≠ '\\' ∧ c ≠ '"' ∧ escape c = [c]) := by
  unfold escape
  split
  case h_7 c hquote hbackslash _ _ _ _ =>
    split
    · exact .inr (.inl rfl)
    · exact .inr (.inr ⟨hbackslash, hquote, rfl⟩)
  all_goals exact .inl ⟨_, by decide, rfl⟩

theorem shortEscapes_inj {sign : Char} (h : (c, sign) ∈ shortEscapes) (h' : (d, sign) ∈ shortEscapes) : c = d := by
  have hall : ∀ x ∈ shortEscapes, ∀ y ∈ shortEscapes, x.2 = y.2 → x.1 = y.1 := by decide
  exact hall _ h _ h' rfl

theorem ne_of_mem_shortEscapes {sign : Char} (h : (c, sign) ∈ shortEscapes) : sign ≠ 'u' := by
  have hall : ∀ x ∈ shortEscapes, x.2 ≠ 'u' := by decide
  exact hall _ h

/-- The first written character can be told from what follows it. -/
theorem escape_append_inj (h : escape c ++ a = escape d ++ b) : c = d ∧ a = b := by
  rcases escape_cases c with ⟨sign, hc, heq⟩ | heq | ⟨hc, -, heq⟩ <;>
    rcases escape_cases d with ⟨sign', hd, heq'⟩ | heq' | ⟨hd, -, heq'⟩ <;>
    rw [heq, heq'] at h
  · cases h
    exact ⟨shortEscapes_inj hc hd, rfl⟩
  · cases h
    exact absurd rfl (ne_of_mem_shortEscapes hc)
  · cases h
    exact absurd rfl hd
  · cases h
    exact absurd rfl (ne_of_mem_shortEscapes hd)
  · have hcode : hexCode c ++ '\x7d' :: a = hexCode d ++ '\x7d' :: b := by simpa using h
    obtain ⟨hsame, rfl⟩ := append_cons_inj (brace_not_mem_toDigits _) (brace_not_mem_toDigits _) hcode
    exact ⟨hexCode_inj hsame, rfl⟩
  · cases h
    exact absurd rfl hd
  · cases h
    exact absurd rfl hc
  · cases h
    exact absurd rfl hc
  · cases h
    exact ⟨rfl, rfl⟩

/-- No written form begins with a quote, so that it is never taken for the end of the text. -/
theorem quote_cons_ne_escape_append : '"' :: a ≠ escape c ++ b := by
  intro h
  rcases escape_cases c with ⟨sign, -, heq⟩ | heq | ⟨-, hquote, heq⟩ <;> rw [heq] at h <;> cases h
  exact hquote rfl

/-! ## Texts -/

theorem flatMap_escape_inj {s t : List Char} (h : s.flatMap escape ++ '"' :: a = t.flatMap escape ++ '"' :: b) :
    s = t ∧ a = b := by
  induction s generalizing t with
  | nil =>
    cases t with
    | nil => exact ⟨rfl, (List.cons.inj h).2⟩
    | cons d t =>
      rw [List.flatMap_cons, List.append_assoc] at h
      exact absurd h quote_cons_ne_escape_append
  | cons c s ih =>
    cases t with
    | nil =>
      rw [List.flatMap_cons, List.append_assoc] at h
      exact absurd h.symm quote_cons_ne_escape_append
    | cons d t =>
      rw [List.flatMap_cons, List.flatMap_cons, List.append_assoc, List.append_assoc] at h
      obtain ⟨rfl, hrest⟩ := escape_append_inj h
      obtain ⟨rfl, rfl⟩ := ih hrest
      exact ⟨rfl, rfl⟩

/-- A quoted text can be told from what follows it. -/
theorem quoted_append_inj {s t : String} (h : (quoted s).toList ++ a = (quoted t).toList ++ b) : s = t ∧ a = b := by
  simp only [quoted, String.toList_ofList, List.cons_append, List.append_assoc, List.cons.injEq,
    true_and] at h
  obtain ⟨hsame, rfl⟩ := flatMap_escape_inj h
  exact ⟨String.toList_inj.mp hsame, rfl⟩

end SecretRotation.Text
