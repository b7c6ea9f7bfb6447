import SecretRotation.Duration.Reader
import SecretRotation.Proofs.Text.Blank

/-!
# Written durations

The grammar of written durations, apart from any reader: a row of items, each a digit with more digits and blanks after it,
then the symbol of a unit, and blanks between the items. A row comes to the sum of its numbers, each times its unit.

A row is also looked at from within, where a reader may stand: before an item, in its number or in its symbol. What may
follow there depends on the next character alone.

## Main definitions

* `TimeUnit.symbols`: the symbols of the units and their sizes.
* `Duration.Items`, `Duration.Written`: rows of items, and rows with at least one.
* `Duration.Continues`: what may follow where a reader stands.
* `Duration.OnlyUnits`: all that stands between digits and blanks is the symbol of a unit.

## Main results

* `TimeUnit.mem_symbols_iff`: the symbols are the texts that name a unit.
* `Duration.awaits_cons_of_isDigit`, `Duration.counts_cons_of_isDigit`, `Duration.completes_cons_of_isDigit`, …: the next
  character in each place.
* `Duration.Written.unique`: a written duration comes to one sum.
* `Duration.Items.onlyUnits`: a row has no letters but those of its symbols.
-/

namespace SecretRotation

/-! ## Symbols -/

namespace TimeUnit

/-- The symbols of the units, with the nanoseconds that each stands for. -/
def symbols : List (List Char × Nat) :=
  [(['n', 's'], 1), (['u', 's'], 1000), (['µ', 's'], 1000), (['m', 's'], 1000000), (['s'], 1000000000),
   (['m'], 60000000000), (['h'], 3600000000000), (['d'], 86400000000000)]

variable {symbol : List Char} {size : Nat}

/-- The symbols are the texts that name a unit. -/
theorem mem_symbols_iff :
    (symbol, size) ∈ symbols ↔ ∃ unit, ofText? symbol = some unit ∧ unit.nanoseconds = size := by
  constructor
  · intro h
    have hall : ∀ entry ∈ symbols, ∃ unit ∈ (ofText? entry.1).toList, unit.nanoseconds = entry.2 := by decide
    obtain ⟨unit, hunit, hsize⟩ := hall _ h
    exact ⟨unit, Option.mem_toList.mp hunit, hsize⟩
  · rintro ⟨unit, htext, rfl⟩
    unfold ofText? at htext
    split at htext <;> cases htext <;> decide

/-- A symbol has one size. -/
theorem size_eq_of_mem_symbols {size' : Nat} (h : (symbol, size) ∈ symbols) (h' : (symbol, size') ∈ symbols) :
    size = size' := by
  obtain ⟨unit, hunit, rfl⟩ := mem_symbols_iff.mp h
  obtain ⟨unit', hunit', rfl⟩ := mem_symbols_iff.mp h'
  rw [Option.some.inj (hunit.symm.trans hunit')]

theorem ne_nil_of_mem_symbols (h : (symbol, size) ∈ symbols) : symbol ≠ [] := by
  have hall : ∀ entry ∈ symbols, entry.1 ≠ [] := by decide
  exact hall _ h

theorem pos_of_mem_symbols (h : (symbol, size) ∈ symbols) : 0 < size := by
  have hall : ∀ entry ∈ symbols, 0 < entry.2 := by decide
  exact hall _ h

theorem separatesUnits_of_mem_symbols (h : (symbol, size) ∈ symbols) :
    ∀ c ∈ symbol, Duration.separatesUnits c = false := by
  have hall : ∀ entry ∈ symbols, entry.1.any Duration.separatesUnits = false := by decide
  exact fun c hc => Bool.eq_false_iff.mpr (List.any_eq_false.mp (hall _ h) c hc)

end TimeUnit

namespace Duration

open TimeUnit (symbols)

variable {c : Char} {cs text : List Char} {n sum : Nat}

theorem separatesUnits_iff : separatesUnits c = true ↔ c.isDigit = true ∨ Text.isBlank c = true := by
  rw [separatesUnits, Bool.or_eq_true]

theorem separatesUnits_eq_false (hdigit : ¬ c.isDigit = true) (hblank : ¬ Text.isBlank c = true) :
    separatesUnits c = false := by
  rw [separatesUnits, Bool.or_eq_false_iff]
  exact ⟨Bool.eq_false_iff.mpr hdigit, Bool.eq_false_iff.mpr hblank⟩

/-! ## Rows of items -/

/-- The number that comes out when the digits of a text are put after those of another number. Blanks between them do not
matter. -/
def spelledAfter (n : Nat) (cs : List Char) : Nat :=
  Nat.ofDigitChars 10 (cs.filter Char.isDigit) n

/-- Rows of items with the nanoseconds that they come to. An item is a digit, more digits and blanks, and the symbol of a
unit; blanks may follow it. -/
inductive Items : List Char → Nat → Prop where
  | nil : Items [] 0
  | cons {first : Char} {more symbol gap rest : List Char} {size sum : Nat} (hfirst : first.isDigit = true)
      (hmore : ∀ c ∈ more, c.isDigit = true ∨ Text.isBlank c = true) (hsymbol : (symbol, size) ∈ symbols)
      (hgap : ∀ c ∈ gap, Text.isBlank c = true) (hrest : Items rest sum) :
      Items (first :: more ++ symbol ++ gap ++ rest) (spelledAfter 0 (first :: more) * size + sum)

/-- A row of at least one item. -/
def Written (cs : List Char) (sum : Nat) : Prop := cs ≠ [] ∧ Items cs sum

theorem spelledAfter_cons_of_isDigit (h : c.isDigit = true) :
    spelledAfter n (c :: cs) = spelledAfter (10 * n + (c.toNat - '0'.toNat)) cs := by
  rw [spelledAfter, List.filter_cons_of_pos h, Nat.ofDigitChars_cons, spelledAfter]

theorem spelledAfter_cons_of_isBlank (h : Text.isBlank c = true) : spelledAfter n (c :: cs) = spelledAfter n cs := by
  have hdigit : ¬ c.isDigit = true := fun hdigit => by simp [Text.isBlank_eq_false_of_isDigit hdigit] at h
  rw [spelledAfter, List.filter_cons_of_neg hdigit, spelledAfter]

theorem le_spelledAfter (n : Nat) (cs : List Char) : n ≤ spelledAfter n cs := by
  induction cs generalizing n with
  | nil => exact Nat.le_refl n
  | cons c cs ih =>
    cases hdigit : c.isDigit with
    | true =>
      rw [spelledAfter_cons_of_isDigit hdigit]
      exact Nat.le_trans (by omega) (ih _)
    | false =>
      rw [spelledAfter, List.filter_cons_of_neg (by simp [hdigit])]
      exact ih n

theorem isDigit_of_items (h : Items (c :: cs) sum) : c.isDigit = true := by
  generalize htext : c :: cs = text at h
  cases h with
  | nil => cases htext
  | cons hfirst =>
    cases htext
    exact hfirst

/-! ## Places in a row -/

/-- Blanks, and then a row. -/
def Awaits (cs : List Char) (sum : Nat) : Prop :=
  ∃ gap rest, cs = gap ++ rest ∧ (∀ c ∈ gap, Text.isBlank c = true) ∧ Items rest sum

/-- What is left of a symbol that has begun with `text`, blanks, and then a row; the number before the symbol was `n`. -/
def Completes (n : Nat) (text cs : List Char) (sum : Nat) : Prop :=
  ∃ more size after rest, cs = more ++ after ∧ (text ++ more, size) ∈ symbols ∧ Awaits after rest ∧ sum = n * size + rest

/-- More of a number that has begun with `n`, a symbol, blanks, and then a row. -/
def Counts (n : Nat) (cs : List Char) (sum : Nat) : Prop :=
  ∃ more after, cs = more ++ after ∧ (∀ c ∈ more, c.isDigit = true ∨ Text.isBlank c = true) ∧
    Completes (spelledAfter n more) [] after sum

/-- What may follow where a reader stands, if the items from there on come to some sum. -/
def Continues : ItemState → List Char → Nat → Prop
  | .seeking _ => Awaits
  | .number n => Counts n
  | .unit n text => Completes n text

theorem awaits_nil : Awaits [] sum ↔ sum = 0 := by
  constructor
  · rintro ⟨gap, rest, heq, -, hrest⟩
    obtain ⟨rfl, rfl⟩ := List.append_eq_nil_iff.mp heq.symm
    generalize htext : [] = text at hrest
    cases hrest with
    | nil => rfl
    | cons => simp at htext
  · rintro rfl
    exact ⟨[], [], rfl, by simp, .nil⟩

theorem awaits_cons_of_isBlank (h : Text.isBlank c = true) : Awaits (c :: cs) sum ↔ Awaits cs sum := by
  constructor
  · rintro ⟨gap, rest, heq, hgap, hrest⟩
    cases gap with
    | nil =>
      cases heq
      rw [Text.isBlank_eq_false_of_isDigit (isDigit_of_items hrest)] at h
      cases h
    | cons _ gap =>
      cases heq
      exact ⟨gap, rest, rfl, fun c hc => hgap c (List.mem_cons_of_mem _ hc), hrest⟩
  · rintro ⟨gap, rest, rfl, hgap, hrest⟩
    exact ⟨c :: gap, rest, rfl, List.forall_mem_cons.mpr ⟨h, hgap⟩, hrest⟩

theorem Items.awaits (h : Items cs sum) : Awaits cs sum :=
  ⟨[], cs, rfl, by simp, h⟩

/-- Without a blank in front, what is awaited is the row itself. -/
theorem awaits_iff_items (h : ∀ c ∈ cs.head?, Text.isBlank c = false) : Awaits cs sum ↔ Items cs sum := by
  constructor
  · rintro ⟨gap, rest, rfl, hgap, hrest⟩
    cases gap with
    | nil => exact hrest
    | cons c gap =>
      have hblank := hgap c List.mem_cons_self
      rw [h c rfl] at hblank
      cases hblank
  · exact Items.awaits

theorem awaits_cons_of_isDigit (h : c.isDigit = true) :
    Awaits (c :: cs) sum ↔ Counts (10 * 0 + (c.toNat - '0'.toNat)) cs sum := by
  have hhead : ∀ b ∈ (c :: cs).head?, Text.isBlank b = false := by
    rintro _ ⟨⟩
    exact Text.isBlank_eq_false_of_isDigit h
  rw [awaits_iff_items hhead]
  constructor
  · intro hitems
    generalize htext : c :: cs = text at hitems
    cases hitems with
    | nil => cases htext
    | @cons _ more symbol gap rest size sum hfirst hmore hsymbol hgap hrest =>
      cases htext
      rw [spelledAfter_cons_of_isDigit h]
      exact ⟨more, symbol ++ (gap ++ rest), by simp, hmore, symbol, size, gap ++ rest, sum, rfl, hsymbol,
        ⟨gap, rest, rfl, hgap, hrest⟩, rfl⟩
  · rintro ⟨more, after, rfl, hmore, symbol, size, after, rest, rfl, hsymbol, ⟨gap, items, rfl, hgap, hitems⟩, rfl⟩
    have hrow := Items.cons h hmore hsymbol hgap hitems
    rw [spelledAfter_cons_of_isDigit h] at hrow
    simpa using hrow

theorem not_awaits_cons (hdigit : ¬ c.isDigit = true) (hblank : ¬ Text.isBlank c = true) : ¬ Awaits (c :: cs) sum := by
  rintro ⟨gap, rest, heq, hgap, hrest⟩
  cases gap with
  | nil =>
    cases heq
    exact hdigit (isDigit_of_items hrest)
  | cons _ gap =>
    cases heq
    exact hblank (hgap c List.mem_cons_self)

theorem separates_head?_of_awaits (h : Awaits cs sum) : ∀ c ∈ cs.head?, separatesUnits c = true := by
  cases cs with
  | nil => simp
  | cons c cs =>
    rintro _ ⟨⟩
    rw [separatesUnits_iff]
    refine Decidable.byContradiction fun hnot => ?_
    rw [not_or] at hnot
    exact not_awaits_cons hnot.1 hnot.2 h

/-- A digit, a blank and the end of the text complete a symbol. -/
theorem completes_of_separates (h : ∀ c ∈ cs.head?, separatesUnits c = true) :
    Completes n text cs sum ↔ ∃ size rest, (text, size) ∈ symbols ∧ Awaits cs rest ∧ sum = n * size + rest := by
  constructor
  · rintro ⟨more, size, after, rest, rfl, hsymbol, hafter, rfl⟩
    cases more with
    | nil => exact ⟨size, rest, by simpa using hsymbol, hafter, rfl⟩
    | cons c more =>
      have hletter := TimeUnit.separatesUnits_of_mem_symbols hsymbol c (by simp)
      rw [h c rfl] at hletter
      cases hletter
  · rintro ⟨size, rest, hsymbol, hafter, rfl⟩
    exact ⟨[], size, cs, rest, rfl, by simpa using hsymbol, hafter, rfl⟩

theorem completes_nil : Completes n text [] sum ↔ ∃ size, (text, size) ∈ symbols ∧ sum = n * size := by
  simp only [completes_of_separates (show ∀ c ∈ [].head?, separatesUnits c = true by simp), awaits_nil]
  constructor
  · rintro ⟨size, rest, hsymbol, rfl, hsum⟩
    exact ⟨size, hsymbol, hsum⟩
  · rintro ⟨size, hsymbol, hsum⟩
    exact ⟨size, 0, hsymbol, rfl, hsum⟩

theorem completes_cons_of_isDigit (h : c.isDigit = true) :
    Completes n text (c :: cs) sum ↔
      ∃ size rest, (text, size) ∈ symbols ∧ Counts (10 * 0 + (c.toNat - '0'.toNat)) cs rest ∧ sum = n * size + rest := by
  rw [completes_of_separates (by simp [separatesUnits, h])]
  simp only [awaits_cons_of_isDigit h]

theorem completes_cons_of_isBlank (h : Text.isBlank c = true) :
    Completes n text (c :: cs) sum ↔ ∃ size rest, (text, size) ∈ symbols ∧ Awaits cs rest ∧ sum = n * size + rest := by
  rw [completes_of_separates (by simp [separatesUnits, h])]
  simp only [awaits_cons_of_isBlank h]

theorem completes_cons_of_not_separates (h : separatesUnits c = false) :
    Completes n text (c :: cs) sum ↔ Completes n (text ++ [c]) cs sum := by
  constructor
  · rintro ⟨more, size, after, rest, heq, hsymbol, hafter, rfl⟩
    cases more with
    | nil =>
      cases heq
      rw [separates_head?_of_awaits hafter c rfl] at h
      cases h
    | cons _ more =>
      cases heq
      exact ⟨more, size, after, rest, rfl, by simpa using hsymbol, hafter, rfl⟩
  · rintro ⟨more, size, after, rest, rfl, hsymbol, hafter, rfl⟩
    exact ⟨c :: more, size, after, rest, rfl, by simpa using hsymbol, hafter, rfl⟩

/-- No symbol is empty. -/
theorem not_completes_of_separates (h : ∀ c ∈ cs.head?, separatesUnits c = true) : ¬ Completes n [] cs sum := by
  rw [completes_of_separates h]
  rintro ⟨size, rest, hsymbol, -⟩
  exact TimeUnit.ne_nil_of_mem_symbols hsymbol rfl

theorem not_counts_nil : ¬ Counts n [] sum := by
  rintro ⟨more, after, heq, -, hcompletes⟩
  obtain ⟨rfl, rfl⟩ := List.append_eq_nil_iff.mp heq.symm
  exact not_completes_of_separates (by simp) hcompletes

theorem counts_cons_of_separates {m : Nat} (h : separatesUnits c = true)
    (hspelled : ∀ cs, spelledAfter n (c :: cs) = spelledAfter m cs) : Counts n (c :: cs) sum ↔ Counts m cs sum := by
  constructor
  · rintro ⟨more, after, heq, hmore, hcompletes⟩
    cases more with
    | nil =>
      obtain rfl : c :: cs = after := heq
      exact absurd hcompletes (not_completes_of_separates (by simpa using h))
    | cons _ more =>
      cases heq
      rw [hspelled] at hcompletes
      exact ⟨more, after, rfl, (List.forall_mem_cons.mp hmore).2, hcompletes⟩
  · rintro ⟨more, after, rfl, hmore, hcompletes⟩
    refine ⟨c :: more, after, rfl, List.forall_mem_cons.mpr ⟨separatesUnits_iff.mp h, hmore⟩, ?_⟩
    rwa [hspelled]

theorem counts_cons_of_isDigit (h : c.isDigit = true) :
    Counts n (c :: cs) sum ↔ Counts (10 * n + (c.toNat - '0'.toNat)) cs sum :=
  counts_cons_of_separates (separatesUnits_iff.mpr (.inl h)) fun _ => spelledAfter_cons_of_isDigit h

theorem counts_cons_of_isBlank (h : Text.isBlank c = true) : Counts n (c :: cs) sum ↔ Counts n cs sum :=
  counts_cons_of_separates (separatesUnits_iff.mpr (.inr h)) fun _ => spelledAfter_cons_of_isBlank h

theorem counts_cons_of_not_separates (h : separatesUnits c = false) :
    Counts n (c :: cs) sum ↔ Completes n [c] cs sum := by
  rw [← List.nil_append [c], ← completes_cons_of_not_separates h]
  constructor
  · rintro ⟨more, after, heq, hmore, hcompletes⟩
    cases more with
    | nil =>
      obtain rfl : c :: cs = after := heq
      exact hcompletes
    | cons _ more =>
      cases heq
      rw [separatesUnits_iff.mpr (hmore c List.mem_cons_self)] at h
      cases h
  · intro hcompletes
    exact ⟨[], c :: cs, rfl, by simp, hcompletes⟩

/-- A sum is never less than a number in it. -/
theorem le_of_counts (h : Counts n cs sum) : n ≤ sum := by
  obtain ⟨more, after, rfl, -, symbol, size, rest, sum, -, hsymbol, -, rfl⟩ := h
  calc
    n ≤ spelledAfter n more := le_spelledAfter n more
    _ ≤ spelledAfter n more * size := Nat.le_mul_of_pos_right _ (TimeUnit.pos_of_mem_symbols hsymbol)
    _ ≤ spelledAfter n more * size + sum := Nat.le_add_right _ _

theorem completes_unique {sum' : Nat} (hhead : ∀ c ∈ cs.head?, separatesUnits c = true) (h : Completes n text cs sum)
    (h' : Completes n text cs sum') (hafter : ∀ {rest rest'}, Awaits cs rest → Awaits cs rest' → rest = rest') :
    sum = sum' := by
  obtain ⟨size, rest, hsymbol, hrest, rfl⟩ := (completes_of_separates hhead).mp h
  obtain ⟨size', rest', hsymbol', hrest', rfl⟩ := (completes_of_separates hhead).mp h'
  rw [TimeUnit.size_eq_of_mem_symbols hsymbol hsymbol', hafter hrest hrest']

/-- What follows a place comes to one sum only. -/
theorem Continues.unique {state : ItemState} {sum' : Nat} (h : Continues state cs sum) (h' : Continues state cs sum') :
    sum = sum' := by
  induction cs generalizing state sum sum' with
  | nil =>
    have hawaits : ∀ {rest rest'}, Awaits [] rest → Awaits [] rest' → rest = rest' := fun h h' =>
      (awaits_nil.mp h).trans (awaits_nil.mp h').symm
    cases state with
    | seeking => exact hawaits h h'
    | number => exact absurd h not_counts_nil
    | unit => exact completes_unique (by simp) h h' hawaits
  | cons c cs ih =>
    have hawaits : ∀ {rest rest'}, Awaits (c :: cs) rest → Awaits (c :: cs) rest' → rest = rest' := by
      intro rest rest' h h'
      by_cases hdigit : c.isDigit = true
      · rw [awaits_cons_of_isDigit hdigit] at h h'
        exact ih (show Continues (.number _) cs rest from h) h'
      by_cases hblank : Text.isBlank c = true
      · rw [awaits_cons_of_isBlank hblank] at h h'
        exact ih (show Continues (.seeking 0) cs rest from h) h'
      exact absurd h (not_awaits_cons hdigit hblank)
    cases state with
    | seeking => exact hawaits h h'
    | number n =>
      change Counts n (c :: cs) sum at h
      change Counts n (c :: cs) sum' at h'
      by_cases hdigit : c.isDigit = true
      · rw [counts_cons_of_isDigit hdigit] at h h'
        exact ih (show Continues (.number _) cs sum from h) h'
      by_cases hblank : Text.isBlank c = true
      · rw [counts_cons_of_isBlank hblank] at h h'
        exact ih (show Continues (.number n) cs sum from h) h'
      rw [counts_cons_of_not_separates (separatesUnits_eq_false hdigit hblank)] at h h'
      exact ih (show Continues (.unit n [c]) cs sum from h) h'
    | unit n text =>
      cases hseparates : separatesUnits c with
      | true => exact completes_unique (by simpa using hseparates) h h' hawaits
      | false =>
        change Completes n text (c :: cs) sum at h
        change Completes n text (c :: cs) sum' at h'
        rw [completes_cons_of_not_separates hseparates] at h h'
        exact ih (show Continues (.unit n _) cs sum from h) h'

/-- A written duration comes to one sum only. -/
theorem Written.unique {sum' : Nat} (h : Written cs sum) (h' : Written cs sum') : sum = sum' :=
  (show Continues (.seeking 0) cs sum from h.2.awaits).unique h'.2.awaits

/-! ## Letters -/

/-- All that stands between digits and blanks is the symbol of a unit. -/
def OnlyUnits (cs : List Char) : Prop :=
  ∀ piece ∈ cs.splitOnP separatesUnits, piece = [] ∨ ∃ size, (piece, size) ∈ symbols

variable {front rest : List Char}

theorem onlyUnits_nil : OnlyUnits [] := by
  simp [OnlyUnits]

theorem onlyUnits_append_cons (h : separatesUnits c = true) :
    OnlyUnits (front ++ c :: rest) ↔ OnlyUnits front ∧ OnlyUnits rest := by
  simp only [OnlyUnits, List.splitOnP_append_cons front rest h, List.forall_mem_append]

theorem onlyUnits_append (h : ∀ c ∈ rest.head?, separatesUnits c = true) :
    OnlyUnits (front ++ rest) ↔ OnlyUnits front ∧ OnlyUnits rest := by
  cases rest with
  | nil => simp [onlyUnits_nil]
  | cons c rest =>
    have hrest : OnlyUnits (c :: rest) ↔ OnlyUnits rest := by
      rw [← List.nil_append (c :: rest), onlyUnits_append_cons (h c rfl)]
      exact and_iff_right onlyUnits_nil
    rw [onlyUnits_append_cons (h c rfl), hrest]

theorem onlyUnits_append_of_separates (h : ∀ c ∈ front, separatesUnits c = true) :
    OnlyUnits (front ++ rest) ↔ OnlyUnits rest := by
  induction front with
  | nil => rw [List.nil_append]
  | cons c front ih =>
    obtain ⟨hc, hfront⟩ := List.forall_mem_cons.mp h
    rw [List.cons_append, ← List.nil_append (c :: _), onlyUnits_append_cons hc, ih hfront]
    exact and_iff_right onlyUnits_nil

theorem onlyUnits_symbol {symbol : List Char} {size : Nat} (h : (symbol, size) ∈ symbols) : OnlyUnits symbol := by
  rw [OnlyUnits, List.splitOnP_eq_singleton (TimeUnit.separatesUnits_of_mem_symbols h)]
  intro piece hpiece
  obtain rfl := List.mem_singleton.mp hpiece
  exact .inr ⟨size, h⟩

/-- A row has no letters but those of its symbols. -/
theorem Items.onlyUnits (h : Items cs sum) : OnlyUnits cs := by
  induction h with
  | nil => exact onlyUnits_nil
  | @cons first more symbol gap rest size sum hfirst hmore hsymbol hgap hrest ih =>
    have hnumber : ∀ c ∈ first :: more, separatesUnits c = true :=
      List.forall_mem_cons.mpr ⟨separatesUnits_iff.mpr (.inl hfirst), fun c hc => separatesUnits_iff.mpr (hmore c hc)⟩
    have hafter : ∀ c ∈ (gap ++ rest).head?, separatesUnits c = true :=
      separates_head?_of_awaits ⟨gap, rest, rfl, hgap, hrest⟩
    rw [List.append_assoc, List.append_assoc, onlyUnits_append_of_separates hnumber, onlyUnits_append hafter,
      onlyUnits_append_of_separates fun c hc => separatesUnits_iff.mpr (.inr (hgap c hc))]
    exact ⟨onlyUnits_symbol hsymbol, ih⟩

/-- The blanks at the ends of a text do not matter. -/
theorem onlyUnits_trim : OnlyUnits (Text.trim cs) ↔ OnlyUnits cs := by
  obtain ⟨front, back, hfront, hback, hcs⟩ := Text.exists_blanks_append_trim cs
  have hback' : ∀ c ∈ back, separatesUnits c = true := fun c hc => separatesUnits_iff.mpr (.inr (hback c hc))
  have hends : OnlyUnits back := by
    rw [← List.append_nil back, onlyUnits_append_of_separates hback']
    exact onlyUnits_nil
  have hwhole : OnlyUnits cs ↔ OnlyUnits (front ++ (Text.trim cs ++ back)) := by rw [← hcs]
  rw [hwhole, onlyUnits_append_of_separates fun c hc => separatesUnits_iff.mpr (.inr (hfront c hc)),
    onlyUnits_append fun c hc => hback' c (List.mem_of_mem_head? hc)]
  exact (and_iff_left hends).symm

end Duration

end SecretRotation
