import SecretRotation.Proofs.Annotations

/-!
# Lists of fields

A list of fields is written as items with commas between them. An item is a name between blanks, or blanks only; the
latter stand for nothing, so that there may be any number of them. All texts are lists of fields in this sense, and the
names that are read off a text are those of its items, in their order: a written list is read back as it was meant.

## Main definitions

* `Annotations.IsName`: the names that a list can hold.
* `Annotations.Lists`: items that stand for some names.

## Main results

* `Annotations.Lists.fieldNames_intercalate`: the names of items are read off the items joined by commas.
* `Annotations.exists_lists`: each text is made of items that stand for the names read off it.
* `Annotations.fieldNames_read_back`: both, and that the names themselves, joined by commas, are such a list.
-/

namespace SecretRotation.Annotations

/-- A name as a list can hold it: it is not empty, has no comma, and neither begins nor ends with a blank. -/
structure IsName (name : String) : Prop where
  ne_empty : name ≠ ""
  comma_not_mem : ',' ∉ name.toList
  front : ∀ c ∈ name.toList.head?, Text.isBlank c = false
  back : ∀ c ∈ name.toList.getLast?, Text.isBlank c = false

/-- Items that stand for some names: each name between blanks, and any number of blank items before, among and after them. -/
inductive Lists : List String → List String → Prop
  | nil : Lists [] []
  | blank {item : String} {items names : List String} (hitem : Text.allBlank item = true) (hrest : Lists items names) :
      Lists (item :: items) names
  | name {front name back : String} {items names : List String} (hname : IsName name)
      (hfront : Text.allBlank front = true) (hback : Text.allBlank back = true) (hrest : Lists items names) :
      Lists ((front ++ name ++ back) :: items) (name :: names)

variable {item list name front back : String} {items names : List String}

/-! ## Items -/

theorem isBlank_of_allBlank (h : Text.allBlank item = true) : ∀ c ∈ item.toList, Text.isBlank c = true :=
  List.all_eq_true.mp h

theorem comma_not_mem_of_allBlank (h : Text.allBlank item = true) : ',' ∉ item.toList := by
  intro hmem
  have hcomma := isBlank_of_allBlank h ',' hmem
  revert hcomma
  decide

/-- A name is what is left of it and the blanks around it. -/
theorem IsName.trimmed_eq (h : IsName name) (hfront : Text.allBlank front = true) (hback : Text.allBlank back = true) :
    Text.trimmed (front ++ name ++ back) = name := by
  have hself : Text.trim name.toList = name.toList :=
    Text.trim_eq_self h.front (by simpa using h.back)
  rw [Text.trimmed, String.toList_append, String.toList_append, Text.trim_append_right (isBlank_of_allBlank hback),
    Text.trim_append_left (isBlank_of_allBlank hfront), hself, String.ofList_toList]

/-- What is left of an item is a name, unless nothing is left. -/
theorem isName_trimmed (hcomma : ',' ∉ item.toList) (hne : Text.trimmed item ≠ "") : IsName (Text.trimmed item) := by
  refine ⟨hne, ?_, ?_, ?_⟩
  · rw [Text.trimmed, String.toList_ofList]
    exact fun hmem => hcomma (Text.mem_of_mem_trim hmem)
  · rw [Text.trimmed, String.toList_ofList]
    exact Text.isBlank_head?_trim _
  · rw [Text.trimmed, String.toList_ofList]
    simpa using Text.isBlank_head?_reverse_trim item.toList

/-- Around what is left of an item there are only blanks. -/
theorem exists_blanks_append_trimmed (item : String) :
    ∃ front back, Text.allBlank front = true ∧ Text.allBlank back = true ∧ item = front ++ Text.trimmed item ++ back := by
  obtain ⟨front, back, hfront, hback, hitem⟩ := Text.exists_blanks_append_trim item.toList
  refine ⟨String.ofList front, String.ofList back, ?_, ?_, ?_⟩
  · simpa [Text.allBlank] using hfront
  · simpa [Text.allBlank] using hback
  · rw [Text.trimmed, ← String.ofList_append, ← String.ofList_append, List.append_assoc, ← hitem, String.ofList_toList]

/-- Nothing is left of blank items, and of no others. -/
theorem trimmed_eq_empty_iff : Text.trimmed item = "" ↔ Text.allBlank item = true := by
  constructor
  · intro hnone
    obtain ⟨front, back, hfront, hback, heq⟩ := exists_blanks_append_trimmed item
    rw [heq, hnone]
    simpa [Text.allBlank] using And.intro (isBlank_of_allBlank hfront) (isBlank_of_allBlank hback)
  · intro hblank
    rw [Text.trimmed, Text.trim_blanks (isBlank_of_allBlank hblank), String.ofList_nil]

theorem Lists.isName (h : Lists items names) : ∀ name ∈ names, IsName name := by
  induction h with
  | nil => simp
  | blank hitem hrest ih => exact ih
  | name hname hfront hback hrest ih => exact List.forall_mem_cons.mpr ⟨hname, ih⟩

theorem Lists.comma_not_mem (h : Lists items names) : ∀ item ∈ items, ',' ∉ item.toList := by
  induction h with
  | nil => simp
  | blank hitem hrest ih => exact List.forall_mem_cons.mpr ⟨comma_not_mem_of_allBlank hitem, ih⟩
  | name hname hfront hback hrest ih =>
    refine List.forall_mem_cons.mpr ⟨?_, ih⟩
    simp [hname.comma_not_mem, comma_not_mem_of_allBlank hfront, comma_not_mem_of_allBlank hback]

/-- Items stand for what is left of those that are not blank, and for nothing else. -/
theorem Lists.names_eq (h : Lists items names) : names = (items.map Text.trimmed).filter (· ≠ "") := by
  induction h with
  | nil => rfl
  | blank hitem hrest ih => simpa [trimmed_eq_empty_iff.mpr hitem] using ih
  | name hname hfront hback hrest ih => simpa [hname.trimmed_eq hfront hback, hname.ne_empty] using ih

/-- Items without commas stand for what is left of those that are not blank. -/
theorem lists_of_comma_not_mem (h : ∀ item ∈ items, ',' ∉ item.toList) :
    Lists items ((items.map Text.trimmed).filter (· ≠ "")) := by
  induction items with
  | nil => exact .nil
  | cons item items ih =>
    obtain ⟨hitem, hitems⟩ := List.forall_mem_cons.mp h
    by_cases hblank : Text.trimmed item = ""
    · simpa [hblank] using Lists.blank (trimmed_eq_empty_iff.mp hblank) (ih hitems)
    · obtain ⟨front, back, hfront, hback, heq⟩ := exists_blanks_append_trimmed item
      have hlists := Lists.name (isName_trimmed hitem hblank) hfront hback (ih hitems)
      rw [← heq] at hlists
      simpa [hblank] using hlists

/-- Names stand for themselves. -/
theorem lists_self (h : ∀ name ∈ names, IsName name) : Lists names names := by
  induction names with
  | nil => exact .nil
  | cons name names ih =>
    obtain ⟨hname, hnames⟩ := List.forall_mem_cons.mp h
    have hlists : Lists (("" ++ name ++ "") :: names) (name :: names) := .name hname rfl rfl (ih hnames)
    simpa using hlists

/-! ## Commas -/

theorem pieces_eq_splitOn (cs : List Char) : pieces cs = cs.splitOn ',' := by
  fun_induction pieces cs with
  | case1 => rfl
  | case2 rest ih => simp [List.splitOn_cons_eq_if_modifyHead, ih]
  | case3 c rest hc hnil ih => exact absurd (ih ▸ hnil) (List.splitOn_ne_nil _ _)
  | case4 c rest hc piece others hpieces ih =>
    have hne : (c == ',') = false := by simpa using hc
    rw [List.splitOn_cons_eq_if_modifyHead, hne, ← ih, hpieces]
    rfl

/-- The commas tell items apart that have none themselves. -/
theorem pieces_intercalate (hne : items ≠ []) (h : ∀ item ∈ items, ',' ∉ item.toList) :
    pieces (",".intercalate items).toList = items.map String.toList := by
  rw [pieces_eq_splitOn, String.toList_intercalate]
  refine List.splitOn_intercalate ',' ?_ (by simpa using hne)
  simpa using h

/-- Each text is made of items without commas. -/
theorem exists_items (list : String) : ∃ items, ",".intercalate items = list ∧ ∀ item ∈ items, ',' ∉ item.toList := by
  refine ⟨(pieces list.toList).map String.ofList, ?_, ?_⟩
  · rw [← String.toList_inj, String.toList_intercalate, List.map_map, pieces_eq_splitOn]
    simp [Function.comp_def]
  · simpa using not_mem_of_mem_pieces list.toList

theorem fieldNames_intercalate (h : ∀ item ∈ items, ',' ∉ item.toList) :
    fieldNames (",".intercalate items) = (items.map Text.trimmed).filter (· ≠ "") := by
  by_cases hne : items = []
  · -- No items and one empty item are the same text.
    subst hne
    decide
  · have htrimmed : Text.trimmed = String.ofList ∘ Text.trim ∘ String.toList := rfl
    rw [fieldNames, pieces_intercalate hne h, htrimmed, ← List.map_map, ← List.map_map, List.filter_map (f := String.ofList)]
    simp [Function.comp_def]

/-! ## Names -/

/-- Each text is made of items that stand for the names read off it. -/
theorem exists_lists (list : String) : ∃ items, ",".intercalate items = list ∧ Lists items (fieldNames list) := by
  obtain ⟨items, rfl, hitems⟩ := exists_items list
  refine ⟨items, rfl, ?_⟩
  rw [fieldNames_intercalate hitems]
  exact lists_of_comma_not_mem hitems

/-- The names of items are read off the items joined by commas. -/
theorem Lists.fieldNames_intercalate (h : Lists items names) : fieldNames (",".intercalate items) = names := by
  rw [h.names_eq, Annotations.fieldNames_intercalate h.comma_not_mem]

theorem isName_of_mem_fieldNames (h : name ∈ fieldNames list) : IsName name := by
  obtain ⟨items, -, hlists⟩ := exists_lists list
  exact hlists.isName name h

/-- **Lists of fields.** What is read off a text are names, those of items of which the text is made, in their order. A list
that is made of items for some names is read back as these names. So are the names that were read off a text, when they
are joined by commas. -/
theorem fieldNames_read_back :
    (∀ list, (∀ name ∈ fieldNames list, IsName name) ∧
      ∃ items, ",".intercalate items = list ∧ Lists items (fieldNames list)) ∧
    (∀ items names, Lists items names → fieldNames (",".intercalate items) = names) ∧
    ∀ list, fieldNames (",".intercalate (fieldNames list)) = fieldNames list := by
  refine ⟨fun list => ⟨fun name => isName_of_mem_fieldNames, exists_lists list⟩, fun items names h => h.fieldNames_intercalate,
    fun list => ?_⟩
  exact (lists_self fun name => isName_of_mem_fieldNames).fieldNames_intercalate

/-- Three names with blanks around two of them, a blank item and an empty one. -/
theorem fieldNames_read_back_padded :
    Lists [" password", " ", "api-key", "", "token "] ["password", "api-key", "token"] ∧
      fieldNames " password, ,api-key,,token " = ["password", "api-key", "token"] ∧ IsName "api-key" := by
  obtain ⟨hread, hback, -⟩ := fieldNames_read_back
  have hlists : Lists [" password", " ", "api-key", "", "token "] ["password", "api-key", "token"] := by
    have hitems : ∀ item ∈ [" password", " ", "api-key", "", "token "], ',' ∉ item.toList := by decide
    exact lists_of_comma_not_mem hitems
  have hnames : fieldNames " password, ,api-key,,token " = ["password", "api-key", "token"] := hback _ _ hlists
  exact ⟨hlists, hnames, (hread " password, ,api-key,,token ").1 "api-key" (by simp [hnames])⟩

end SecretRotation.Annotations
