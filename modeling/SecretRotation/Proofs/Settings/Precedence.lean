import Mathlib.Logic.ExistsUnique
import SecretRotation.Settings.Source

/-!
# Which source counts

Settings come from layers that lie over each other, with sections in sections, any of which may be missing or empty. Setting
by setting this comes down to one rule: the last source that says a setting counts, in the order of ranks, and where none
says it the built-in value does. Sources of different ranks may be given in any order.

## Main definitions

* `Setting`: the single settings; `Settings.value` and `Layer.said?` read them.
* `Setting.builtIn`: their built-in values.
* `Source.OrdersStably`: a list of sources is put into the order of ranks.
* `Source.failure?`: why a source cannot be read.
* `Source.counted`: the value of a setting that counts among sources.

## Main results

* `Layer.said?_atop`: what a layer over another one says about a setting.
* `Layer.atop_assoc`, `Layer.empty_atop`, `Layer.atop_empty`: layers can be laid over each other in any grouping.
* `Source.OrdersStably.unique`: there is one such order, whatever the order of different ranks was before.
* `Settings.load_by_rank`: what is loaded from sources.
-/

namespace SecretRotation

/-- The single settings. -/
inductive Setting where
  | kindName | length | rsaBits | curve | uppercase | lowercase | numbers | specials | allowedSpecials
  | minimum | announce | enabled | windows
  | level | format
deriving DecidableEq

namespace Setting

/-- The values of a setting. The list of windows is one value. -/
abbrev Value : Setting → Type
  | kindName | curve | allowedSpecials | minimum | level => String
  | length | rsaBits => Nat
  | uppercase | lowercase | numbers | specials | announce | enabled => Bool
  | windows => List WindowText
  | format => LogFormat

/-- The value of a setting that nobody says. -/
def builtIn : (k : Setting) → k.Value
  | kindName => "string"
  | length => 32
  | rsaBits => 2048
  | curve => "P-256"
  | uppercase | lowercase | numbers => true
  | specials => false
  | allowedSpecials => "!@#$%^&*()_+-=[]\x7b\x7d|;:,.<>?"
  | minimum => "5m"
  | announce => false
  | enabled => false
  | windows => []
  | level => "info"
  | format => .compact

end Setting

/-- The value of a setting. -/
def Settings.value (s : Settings) : (k : Setting) → k.Value
  | .kindName => s.defaults.kindName
  | .length => s.defaults.length
  | .rsaBits => s.defaults.rsaBits
  | .curve => s.defaults.curve
  | .uppercase => s.defaults.uppercase
  | .lowercase => s.defaults.lowercase
  | .numbers => s.defaults.numbers
  | .specials => s.defaults.specials
  | .allowedSpecials => s.defaults.allowedSpecials
  | .minimum => s.rotation.minimum
  | .announce => s.rotation.announce
  | .enabled => s.rotation.gate.enabled
  | .windows => s.rotation.gate.windows
  | .level => s.logging.level
  | .format => s.logging.format

/-- What a layer says about a setting: its section is there, and so is the setting in it. -/
def Layer.said? (l : Layer) : (k : Setting) → Option k.Value
  | .kindName => l.defaults.bind (·.kindName)
  | .length => l.defaults.bind (·.length)
  | .rsaBits => l.defaults.bind (·.rsaBits)
  | .curve => l.defaults.bind (·.curve)
  | .uppercase => l.defaults.bind (·.uppercase)
  | .lowercase => l.defaults.bind (·.lowercase)
  | .numbers => l.defaults.bind (·.numbers)
  | .specials => l.defaults.bind (·.specials)
  | .allowedSpecials => l.defaults.bind (·.allowedSpecials)
  | .minimum => l.rotation.bind (·.minimum)
  | .announce => l.rotation.bind (·.announce)
  | .enabled => l.rotation.bind fun rotation => rotation.windows.bind (·.enabled)
  | .windows => l.rotation.bind fun rotation => rotation.windows.bind (·.windows)
  | .level => l.logging.bind (·.level)
  | .format => l.logging.bind (·.format)

namespace Source

/-- Why a source cannot be read. -/
def failure? (source : Source) : Option ConfigError :=
  match source.layer with
  | .ok _ => none
  | .error cause => some cause

/-- What a source says about a setting. -/
def said? (source : Source) (k : Setting) : Option k.Value := source.layer.toOption.bind (·.said? k)

/-- The value of a setting among sources: what the last of them says that says anything, or else the built-in value. -/
def counted (sources : List Source) (k : Setting) : k.Value :=
  ((sources.filterMap (·.said? k)).getLast?).getD k.builtIn

/-- The same sources in the order of their ranks, with those of one rank in the order that they had. -/
structure OrdersStably (sources ordered : List Source) : Prop where
  perm : ordered.Perm sources
  ascending : ordered.Pairwise fun a b => a.precedence.rank ≤ b.precedence.rank
  stable : ∀ precedence, ordered.filter (·.precedence = precedence) = sources.filter (·.precedence = precedence)

end Source

/-! ## Settings one by one -/

/-- Settings with given values. -/
def Settings.ofValues (value : (k : Setting) → k.Value) : Settings where
  defaults := {
    kindName := value .kindName, length := value .length, rsaBits := value .rsaBits, curve := value .curve,
    uppercase := value .uppercase, lowercase := value .lowercase, numbers := value .numbers, specials := value .specials,
    allowedSpecials := value .allowedSpecials }
  rotation := { minimum := value .minimum, announce := value .announce, gate := ⟨value .enabled, value .windows⟩ }
  logging := { level := value .level, format := value .format }

/-- Settings are nothing but the values of the single ones. -/
theorem Settings.ext_value {s t : Settings} (h : ∀ k, s.value k = t.value k) : s = t :=
  calc
    s = ofValues s.value := rfl
    _ = ofValues t.value := congrArg ofValues (funext h)
    _ = t := rfl

/-- What a merged section says about a setting, if a section over another one says what the upper one does or else the lower
one. -/
theorem bind_merge {α β : Type} {combine : α → α → α} {read : α → Option β}
    (h : ∀ upper lower, read (combine upper lower) = (read upper).or (read lower)) (upper lower : Option α) :
    (Option.merge combine upper lower).bind read = (upper.bind read).or (lower.bind read) := by
  cases upper with
  | none => simp
  | some upper =>
    cases lower with
    | none => simp
    | some lower => exact h upper lower

namespace Layer

/-- A layer over another one says about each setting what the upper one says, or else what the lower one does. -/
theorem said?_atop (upper lower : Layer) (k : Setting) :
    (upper.atop lower).said? k = (upper.said? k).or (lower.said? k) := by
  cases k with
  | enabled | windows =>
    -- The section about windows is merged within that about rotation.
    exact bind_merge (fun upper lower => bind_merge (fun _ _ => rfl) upper.windows lower.windows) _ _
  | _ => exact bind_merge (fun _ _ => rfl) _ _

/-- A section that is missing is settled like one in which all is left open. -/
theorem value_resolve (l : Layer) (k : Setting) : l.resolve.value k = (l.said? k).getD k.builtIn := by
  obtain ⟨defaults, rotation, logging⟩ := l
  cases k with
  | minimum | announce => cases rotation <;> rfl
  | enabled | windows =>
    cases rotation with
    | none => rfl
    | some rotation => obtain ⟨-, -, windows⟩ := rotation; cases windows <;> rfl
  | level | format => cases logging <;> rfl
  | _ => cases defaults <;> rfl

end Layer

/-! ## Layers over layers -/

instance : Std.Associative DefaultsLayer.atop where
  assoc upper middle lower := by simp only [DefaultsLayer.atop, Option.or_assoc]

instance : Std.Associative WindowsLayer.atop where
  assoc upper middle lower := by simp only [WindowsLayer.atop, Option.or_assoc]

instance : Std.Associative RotationLayer.atop where
  assoc upper middle lower := by
    simp only [RotationLayer.atop, Option.or_assoc, (Option.associative_merge WindowsLayer.atop).assoc]

instance : Std.Associative LoggingLayer.atop where
  assoc upper middle lower := by simp only [LoggingLayer.atop, Option.or_assoc]

namespace Layer

/-- It does not matter which layers are laid over each other first. -/
theorem atop_assoc (upper middle lower : Layer) : (upper.atop middle).atop lower = upper.atop (middle.atop lower) := by
  simp only [atop, (Option.associative_merge DefaultsLayer.atop).assoc, (Option.associative_merge RotationLayer.atop).assoc,
    (Option.associative_merge LoggingLayer.atop).assoc]

theorem empty_atop (l : Layer) : empty.atop l = l := by
  show Layer.mk (Option.merge _ none l.defaults) (Option.merge _ none l.rotation) (Option.merge _ none l.logging) = l
  simp only [Option.merge_none_left]

theorem atop_empty (l : Layer) : l.atop empty = l := by
  show Layer.mk (Option.merge _ l.defaults none) (Option.merge _ l.rotation none) (Option.merge _ l.logging none) = l
  simp only [Option.merge_none_right]

theorem finalize_eq (l : Layer) : l.finalize = l.resolve.engineConfig.map fun _ => l.resolve := by
  rw [finalize]
  cases l.resolve.engineConfig <;> rfl

end Layer

/-! ## The order of ranks -/

theorem Precedence.eq_of_rank_eq {p q : Precedence} (h : p.rank = q.rank) : p = q := by
  cases p <;> cases q <;> first | rfl | cases h

namespace Source

variable {sources others a b : List Source}

theorem ordersStably_ordered (sources : List Source) : OrdersStably sources (ordered sources) := by
  have hperm : (ordered sources).Perm sources := List.mergeSort_perm sources _
  have htrans : ∀ a b c : Source, decide (a.precedence.rank ≤ b.precedence.rank) →
      decide (b.precedence.rank ≤ c.precedence.rank) → decide (a.precedence.rank ≤ c.precedence.rank) := by
    simpa using fun a b c => Nat.le_trans
  have htotal : ∀ a b : Source,
      (decide (a.precedence.rank ≤ b.precedence.rank) || decide (b.precedence.rank ≤ a.precedence.rank)) = true := by
    simpa using fun a b => Nat.le_total _ _
  refine ⟨hperm, ?_, fun precedence => ?_⟩
  · exact (List.pairwise_mergeSort htrans htotal sources).imp of_decide_eq_true
  · -- Sources of one rank are in order already, so they still stand in their order when all are sorted.
    have hpairwise : (sources.filter (·.precedence = precedence)).Pairwise fun a b =>
        decide (a.precedence.rank ≤ b.precedence.rank) = true := by
      refine List.pairwise_of_forall_mem_list fun a ha b hb => ?_
      rw [List.mem_filter, decide_eq_true_iff] at ha hb
      rw [ha.2, hb.2]
      exact decide_eq_true (Nat.le_refl _)
    have hsublist := (List.sublist_mergeSort htrans htotal hpairwise List.filter_sublist).filter (·.precedence = precedence)
    rw [List.filter_filter] at hsublist
    simp only [Bool.and_self] at hsublist
    exact (hsublist.eq_of_length (hperm.filter _).length_eq.symm).symm

theorem rank_le_of_mem {first source : Source} {rest : List Source}
    (h : (first :: rest).Pairwise fun a b => a.precedence.rank ≤ b.precedence.rank) (hsource : source ∈ first :: rest) :
    first.precedence.rank ≤ source.precedence.rank := by
  rcases List.mem_cons.mp hsource with rfl | hrest
  · exact Nat.le_refl _
  · exact List.rel_of_pairwise_cons h hrest

/-- Sources in the order of their ranks are determined by their order within each rank. -/
theorem eq_of_filter_eq (ha : a.Pairwise fun a b => a.precedence.rank ≤ b.precedence.rank)
    (hb : b.Pairwise fun a b => a.precedence.rank ≤ b.precedence.rank)
    (h : ∀ precedence, a.filter (·.precedence = precedence) = b.filter (·.precedence = precedence)) : a = b := by
  induction a generalizing b with
  | nil =>
    cases b with
    | nil => rfl
    | cons y b =>
      have := h y.precedence
      simp at this
  | cons x a ih =>
    cases b with
    | nil =>
      have := h x.precedence
      simp at this
    | cons y b =>
      -- The first source of either list stands in the other one too, so they are of the same rank.
      have hx : x ∈ (y :: b).filter (·.precedence = x.precedence) := by rw [← h]; simp
      have hy : y ∈ (x :: a).filter (·.precedence = y.precedence) := by rw [h]; simp
      have hrank : x.precedence = y.precedence := Precedence.eq_of_rank_eq
        (Nat.le_antisymm (rank_le_of_mem ha (List.mem_filter.mp hy).1) (rank_le_of_mem hb (List.mem_filter.mp hx).1))
      obtain ⟨rfl, -⟩ : x = y ∧ _ := by simpa [List.filter_cons, hrank] using h y.precedence
      rw [ih (List.Pairwise.of_cons ha) (List.Pairwise.of_cons hb) fun precedence => ?_]
      have hfilter := h precedence
      by_cases hx : x.precedence = precedence
      · simpa [List.filter_cons, hx] using hfilter
      · simpa [List.filter_cons, hx] using hfilter

/-- There is one way to order sources by their ranks. It depends on their order within each rank only. -/
theorem OrdersStably.unique (ha : OrdersStably sources a) (hb : OrdersStably others b)
    (h : ∀ precedence, sources.filter (·.precedence = precedence) = others.filter (·.precedence = precedence)) : a = b :=
  eq_of_filter_eq ha.ascending hb.ascending fun precedence =>
    (ha.stable precedence).trans ((h precedence).trans (hb.stable precedence).symm)

/-! ## Sources over sources -/

/-- Sources end at the first that cannot be read, or they give a layer that says what the last source says, and what no
source says is left to the layer at the bottom. -/
theorem stack_cases (sources : List Source) (bottom : Layer) :
    (∃ cause, sources.findSome? failure? = some cause ∧ stack bottom sources = .error cause) ∨
      (sources.findSome? failure? = none ∧ ∃ layer, stack bottom sources = .ok layer ∧
        ∀ k, layer.said? k = (sources.filterMap (·.said? k)).getLast?.or (bottom.said? k)) := by
  induction sources generalizing bottom with
  | nil => exact .inr ⟨rfl, bottom, rfl, fun k => rfl⟩
  | cons source rest ih =>
    cases hlayer : source.layer with
    | error cause => exact .inl ⟨cause, by simp [failure?, hlayer], by rw [stack, hlayer]⟩
    | ok layer =>
      have hfailure : (source :: rest).findSome? failure? = rest.findSome? failure? := by simp [failure?, hlayer]
      have hstack : stack bottom (source :: rest) = stack (layer.atop bottom) rest := by rw [stack, hlayer]
      rw [hfailure, hstack]
      refine (ih (layer.atop bottom)).imp_right fun ⟨hnone, result, hresult, hsaid⟩ => ⟨hnone, result, hresult, fun k => ?_⟩
      have hsource : source.said? k = layer.said? k := by rw [said?, hlayer]; rfl
      rw [hsaid k, Layer.said?_atop, ← Option.or_assoc, ← hsource, List.filterMap_cons]
      cases source.said? k with
      | none => rw [Option.or_none]
      | some value => rw [List.getLast?_cons]; cases (rest.filterMap (·.said? k)).getLast? <;> rfl

end Source

/-- **The last source that says a setting counts.** Sources are put into the order of their ranks, those of one rank as they
stood. If one of them cannot be read, the first of those in order is complained about. Otherwise each setting has the value
that the last source in order gives it that says anything about it, or else its built-in value, and the settings are handed
out if they pass the checks. So sources of different ranks may change places, and layers may be laid over each other in any
grouping, with the layer that says nothing wherever one likes. -/
theorem Settings.load_by_rank (sources : List Source) :
    (∃ ordered, Source.OrdersStably sources ordered ∧
      match ordered.findSome? Source.failure? with
      | some cause => load sources = .error cause
      | none => ∃! s : Settings, (∀ k, s.value k = Source.counted ordered k) ∧ load sources = s.engineConfig.map fun _ => s) ∧
    (∀ others, (∀ precedence,
        others.filter (·.precedence = precedence) = sources.filter (·.precedence = precedence)) → load others = load sources) ∧
    (∀ upper middle lower : Layer, (upper.atop middle).atop lower = upper.atop (middle.atop lower)) ∧
    ∀ l : Layer, Layer.empty.atop l = l ∧ l.atop .empty = l := by
  refine ⟨⟨Source.ordered sources, Source.ordersStably_ordered sources, ?_⟩, fun others hothers => ?_, Layer.atop_assoc,
    fun l => ⟨l.empty_atop, l.atop_empty⟩⟩
  · rcases Source.stack_cases (Source.ordered sources) .empty with ⟨cause, hcause, hstack⟩ | ⟨hnone, layer, hstack, hsaid⟩
    · rw [hcause]
      dsimp only
      rw [load, hstack]
    · rw [hnone]
      dsimp only
      have hvalue : ∀ k, layer.resolve.value k = Source.counted (Source.ordered sources) k := by
        intro k
        have hempty : Layer.empty.said? k = none := by cases k <;> rfl
        rw [layer.value_resolve, hsaid, hempty, Option.or_none, Source.counted]
      refine ⟨layer.resolve, ⟨hvalue, ?_⟩, fun s hs => Settings.ext_value fun k => (hs.1 k).trans (hvalue k).symm⟩
      rw [load, hstack]
      exact layer.finalize_eq
  · have hordered : Source.ordered others = Source.ordered sources :=
      (Source.ordersStably_ordered others).unique (Source.ordersStably_ordered sources) hothers
    rw [load, load, hordered]

end SecretRotation
