import SecretRotation.Annotations
import SecretRotation.Proofs.Text.Blank

/-!
# Names and keys

The names in a list are without blanks at their ends and without commas, so that each of them alone is a list of this name
only. The keys under which a field has its settings are never that of the list.

## Main definitions

* `Annotations.perField`: the keys of settings and stamps, for objects and for fields.

## Main results

* `Annotations.fieldNames_of_mem`: a name from a list is a list of itself.
* `Annotations.fieldKey_ne_autogenerate`: no key of a field is the key of the list.
-/

namespace SecretRotation

namespace Annotations

/-! ## Lists of names -/

theorem pieces_of_not_mem {cs : List Char} (h : ',' ∉ cs) : pieces cs = [cs] := by
  induction cs with
  | nil => rfl
  | cons c cs ih =>
    have hc : c ≠ ',' := fun heq => h (heq ▸ List.mem_cons_self)
    rw [pieces, ih fun hmem => h (List.mem_cons_of_mem _ hmem)]
    exact hc

theorem not_mem_of_mem_pieces (cs : List Char) : ∀ piece ∈ pieces cs, ',' ∉ piece := by
  fun_induction pieces cs with
  | case1 => simp
  | case2 rest ih => simpa using ih
  | case3 c rest hc hnil => simpa using fun heq : ',' = c => hc heq.symm
  | case4 c rest hc piece others hpieces ih =>
    rw [hpieces] at ih
    obtain ⟨hpiece, hothers⟩ := List.forall_mem_cons.mp ih
    refine List.forall_mem_cons.mpr ⟨fun hmem => ?_, hothers⟩
    rcases List.mem_cons.mp hmem with heq | hmem
    · exact hc heq.symm
    · exact hpiece hmem

/-- A name from a list is a list of itself. -/
theorem fieldNames_of_mem {list field : String} (h : field ∈ fieldNames list) : fieldNames field = [field] := by
  obtain ⟨name, hname, rfl⟩ := List.mem_map.mp h
  obtain ⟨htrimmed, hne⟩ := List.mem_filter.mp hname
  obtain ⟨piece, hpiece, rfl⟩ := List.mem_map.mp htrimmed
  have hcomma : ',' ∉ Text.trim piece := fun hmem =>
    not_mem_of_mem_pieces list.toList piece hpiece (Text.mem_of_mem_trim hmem)
  rw [fieldNames, String.toList_ofList, pieces_of_not_mem hcomma, List.map_singleton, Text.trim_trim]
  simp [of_decide_eq_true hne]

/-! ## Keys -/

/-- The keys of settings and stamps. Each of them counts for the whole object, and with the name of a field after it for that
field. -/
def perField : List String := [kind, length, curve, rotate, generatedAt]

theorem ne_autogenerate {base : String} (h : base ∈ perField) : base ≠ autogenerate := by
  revert base
  decide

theorem fieldKey_ne_autogenerate {base : String} (h : base ∈ perField) (field : String) :
    fieldKey base field ≠ autogenerate := by
  intro heq
  have hprefix : base.toList <+: autogenerate.toList := by
    rw [← heq, fieldKey, String.append_assoc, String.toList_append]
    exact List.prefix_append _ _
  have hnot : ∀ base ∈ perField, ¬ base.toList <+: autogenerate.toList := by decide
  exact hnot base h hprefix

end Annotations

end SecretRotation
