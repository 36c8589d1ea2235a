-- SUMMARY: Specs form a cascade: each replaces the style before it, or is laid over it.
import LogLine.Proofs.Markup.Reading
import LogLine.Proofs.Text.Parts

/-!
# Cascading specs

What a spec does to a style is one of two things. If a resetting item is reached
in it, itself or through names, the style before it does not matter at all.
Otherwise the spec has a style of its own that is laid over the one before: its
colours hide the colours below, and its attributes are added. Both survive
doing one thing after another, so items, names inside names and specs joined by
commas all behave alike, and it does not matter how a style was written.
-/

namespace LogLine

/-! ## Styles over styles -/

namespace Attributes

@[simp] theorem union_none (s : Attributes) : s.union .none = s :=
  funext fun a => Bool.or_false (s a)

@[simp] theorem none_union (s : Attributes) : Attributes.none.union s = s :=
  funext fun a => Bool.false_or (s a)

theorem union_assoc (s t u : Attributes) : (s.union t).union u = s.union (t.union u) :=
  funext fun a => Bool.or_assoc (s a) (t a) (u a)

@[simp] theorem union_self (s : Attributes) : s.union s = s :=
  funext fun a => Bool.or_self (s a)

end Attributes

namespace Style

/-- The style laid over another one. -/
def onto (top below : Style) : Style where
  foreground := top.foreground.or below.foreground
  background := top.background.or below.background
  attributes := below.attributes.union top.attributes

theorem default_onto (s : Style) : default.onto s = s := by
  simp only [onto, default, Option.none_or, Attributes.union_none]

theorem onto_assoc (a b c : Style) : (a.onto b).onto c = a.onto (b.onto c) := by
  simp only [onto, Option.or_assoc, Attributes.union_assoc]

theorem onto_self (s : Style) : s.onto s = s := by
  simp only [onto, Option.or_self, Attributes.union_self]

/-! ## Effects on a style -/

/-- Whatever the style was, it is replaced by the same one. -/
def Replaced (effect : Style → Style) : Prop := ∀ s, effect s = effect .default

/-- One style is laid over whatever the style was. -/
def Overlaid (effect : Style → Style) : Prop := ∀ s, effect s = (effect .default).onto s

section

variable {f g : Style → Style} {α : Type} {effect : α → Style → Style} {as : List α}

theorem Replaced.comp_right (h : Replaced f) (g : Style → Style) : Replaced (g ∘ f) :=
  fun s => congrArg g (h s)

theorem Replaced.comp_left (h : Replaced g) (f : Style → Style) : Replaced (g ∘ f) :=
  fun s => (h (f s)).trans (h (f .default)).symm

theorem Overlaid.comp (hf : Overlaid f) (hg : Overlaid g) : Overlaid (g ∘ f) := by
  intro s
  calc g (f s)
    _ = (g .default).onto (f s) := hg (f s)
    _ = (g .default).onto ((f .default).onto s) := by rw [hf s]
    _ = ((g .default).onto (f .default)).onto s := (onto_assoc _ _ _).symm
    _ = (g (f .default)).onto s := by rw [hg (f .default)]

theorem Replaced.foldl {a : α} (ha : a ∈ as) (h : Replaced (effect a)) :
    Replaced fun s => as.foldl (fun s a => effect a s) s := by
  induction as with
  | nil => exact absurd ha List.not_mem_nil
  | cons b as ih =>
    rcases List.mem_cons.mp ha with rfl | ha
    · exact h.comp_right fun s => as.foldl (fun s a => effect a s) s
    · exact (ih ha).comp_left (effect b)

theorem Overlaid.foldl (h : ∀ a ∈ as, Overlaid (effect a)) :
    Overlaid fun s => as.foldl (fun s a => effect a s) s := by
  induction as with
  | nil => exact fun s => s.default_onto.symm
  | cons a as ih =>
    rw [List.forall_mem_cons] at h
    exact h.1.comp (ih h.2)

/-- The second time, neither kind of effect changes anything. -/
theorem Replaced.twice (h : Replaced f) (s : Style) : f (f s) = f s :=
  (h (f s)).trans (h s).symm

theorem Overlaid.twice (h : Overlaid f) (s : Style) : f (f s) = f s := by
  rw [h (f s), h s, ← onto_assoc, onto_self]

end

end Style

/-! ## Applying items -/

namespace StyleItem

open Style (Overlaid Replaced)

variable {byName : Text → Style → Style}

theorem ofSpec_append (a b : Text) : ofSpec (a ++ ',' :: b) = ofSpec a ++ ofSpec b := by
  simp [ofSpec, Text.split_append_cons]

/-- The name that an item stands for. -/
def name? : StyleItem → Option Text
  | .named name => some name
  | _ => none

/-- A reset replaces the style, and no other item does unless its name does. -/
theorem replaced_reset : Replaced (reset.applyWith byName) := fun _ => rfl

theorem overlaid_applyWith {item : StyleItem} (h : item ≠ .reset)
    (hname : ∀ name, item = .named name → Overlaid (byName name)) :
    Overlaid (item.applyWith byName) := by
  intro s
  cases item with
  | foreground c =>
    cases c with
    | none => exact s.default_onto.symm
    | some c => simp [applyWith, Style.withForeground, Style.onto, Style.default]
  | background c =>
    cases c with
    | none => exact s.default_onto.symm
    | some c => simp [applyWith, Style.withBackground, Style.onto, Style.default]
  | add what => simp [applyWith, Style.withAttribute, Style.onto, Style.default]
  | reset => exact absurd rfl h
  | named name => exact hname name rfl s

end StyleItem

/-! ## Applying specs -/

namespace StyleSheet

open Style (Overlaid Replaced)

variable (sheet : StyleSheet)

/-- What a name does to a style if names may be followed so many levels from there. -/
def applyName : (depth : Nat) → (name : Text) → Style → Style
  | 0, _, s => s
  | depth + 1, name, s => (sheet.find? name).elim s (sheet.apply depth · s)

theorem apply_eq_foldl (depth : Nat) (spec : Text) (s : Style) :
    sheet.apply depth spec s =
      (StyleItem.ofSpec spec).foldl (fun s item => item.applyWith (sheet.applyName depth) s) s := by
  cases depth <;> rfl

theorem apply_nil (depth : Nat) (s : Style) : sheet.apply depth [] s = s :=
  sheet.apply_eq_foldl depth [] s

/-- Specs that are joined by a comma are applied one after the other. -/
theorem apply_append (depth : Nat) (a b : Text) (s : Style) :
    sheet.apply depth (a ++ ',' :: b) s = sheet.apply depth b (sheet.apply depth a s) := by
  simp only [apply_eq_foldl, StyleItem.ofSpec_append, List.foldl_append]

theorem apply_join (depth : Nat) (specs : List Text) (s : Style) :
    sheet.apply depth (Text.join [','] specs) s =
      specs.foldl (fun s spec => sheet.apply depth spec s) s := by
  induction specs generalizing s with
  | nil => exact sheet.apply_nil depth s
  | cons spec specs ih =>
    cases specs with
    | nil =>
      rw [Text.join_singleton]
      rfl
    | cons next specs =>
      rw [Text.join_cons_cons, apply_append, ih]
      rfl

/-- A spec in which a resetting item is reached, itself or through the names it uses, as far as
    names are followed. -/
inductive Resets : (depth : Nat) → (spec : Text) → Prop
  | item {depth : Nat} {spec : Text} (h : .reset ∈ StyleItem.ofSpec spec) : Resets depth spec
  | name {depth : Nat} {spec name body : Text} (hname : .named name ∈ StyleItem.ofSpec spec)
      (hbody : sheet.find? name = some body) (h : Resets depth body) : Resets (depth + 1) spec

theorem resets_succ_iff (depth : Nat) (spec : Text) :
    sheet.Resets (depth + 1) spec ↔
      .reset ∈ StyleItem.ofSpec spec ∨ ∃ item ∈ StyleItem.ofSpec spec,
        ∃ body ∈ item.name?.bind sheet.find?, sheet.Resets depth body := by
  constructor
  · intro h
    cases h with
    | item h => exact .inl h
    | @name _ _ name body hname hbody h => exact .inr ⟨.named name, hname, body, hbody, h⟩
  · rintro (h | ⟨item, hitem, body, hbody, h⟩)
    · exact .item h
    · obtain ⟨name, hname, hfind⟩ := Option.bind_eq_some_iff.mp hbody
      cases item <;> cases hname
      exact .name hitem hfind h

instance decidableResets : (depth : Nat) → (spec : Text) → Decidable (sheet.Resets depth spec)
  | 0, spec =>
    decidable_of_iff (.reset ∈ StyleItem.ofSpec spec)
      ⟨.item, fun h => match h with | .item h => h⟩
  | depth + 1, spec =>
    have := decidableResets depth
    decidable_of_iff _ (sheet.resets_succ_iff depth spec).symm

variable {sheet}

/-- A spec that resets replaces the style. -/
theorem Resets.replaced {depth : Nat} {spec : Text} (h : sheet.Resets depth spec) :
    Replaced (sheet.apply depth spec) := by
  induction h with
  | @item depth spec h =>
    rw [funext (sheet.apply_eq_foldl depth spec)]
    exact Replaced.foldl h StyleItem.replaced_reset
  | @name depth spec name body hname hbody h ih =>
    have heffect : Replaced ((StyleItem.named name).applyWith (sheet.applyName (depth + 1))) := by
      simpa only [StyleItem.applyWith, applyName, hbody, Option.elim_some, Replaced] using ih
    rw [funext (sheet.apply_eq_foldl (depth + 1) spec)]
    exact Replaced.foldl hname heffect

/-- Any other spec is laid over the style. -/
theorem overlaid_of_not_resets {depth : Nat} {spec : Text} (h : ¬ sheet.Resets depth spec) :
    Overlaid (sheet.apply depth spec) := by
  induction depth generalizing spec with
  | zero =>
    rw [funext (sheet.apply_eq_foldl 0 spec)]
    refine Overlaid.foldl fun item hitem => StyleItem.overlaid_applyWith ?_ ?_
    · rintro rfl
      exact h (.item hitem)
    · intro name _ s
      exact s.default_onto.symm
  | succ depth ih =>
    rw [funext (sheet.apply_eq_foldl (depth + 1) spec)]
    refine Overlaid.foldl fun item hitem => StyleItem.overlaid_applyWith ?_ ?_
    · rintro rfl
      exact h (.item hitem)
    · rintro name rfl s
      cases hbody : sheet.find? name with
      | none =>
        simp only [applyName, hbody, Option.elim_none]
        exact s.default_onto.symm
      | some body =>
        simp only [applyName, hbody, Option.elim_some]
        exact ih (fun hresets => h (.name hitem hbody hresets)) s

theorem apply_apply (depth : Nat) (spec : Text) (s : Style) :
    sheet.apply depth spec (sheet.apply depth spec s) = sheet.apply depth spec s := by
  by_cases h : sheet.Resets depth spec
  · exact h.replaced.twice s
  · exact (overlaid_of_not_resets h).twice s

theorem apply_none (depth : Nat) (s : Style) :
    sheet.apply depth "none".toList s = .default := by
  have hitem : StyleItem.ofSpec "none".toList = [.reset] := by decide
  rw [apply_eq_foldl, hitem]
  rfl

/-- Specs joined by a comma are applied one after the other, so that the style inside scopes folds
    their names from the outermost to the innermost. A spec in which a resetting item is reached
    ignores the style before it; any other one is laid over it. So a spec that is repeated does
    nothing more, and what comes before a reset does not count. -/
theorem apply_cascades (sheet : StyleSheet) :
    (∀ depth a b s,
      sheet.apply depth (a ++ ',' :: b) s = sheet.apply depth b (sheet.apply depth a s)) ∧
    (∀ names, sheet.resolve (Text.join [','] names) =
        names.foldl (fun s name => sheet.apply maxDepth name s) .default ∧
      (Pen.within sheet.resolve names).style = sheet.resolve (Text.join [','] names)) ∧
    (∀ depth spec,
      (sheet.Resets depth spec → ∀ s, sheet.apply depth spec s = sheet.apply depth spec .default) ∧
      (¬ sheet.Resets depth spec →
        ∀ s, sheet.apply depth spec s = (sheet.apply depth spec .default).onto s)) ∧
    (∀ depth spec s,
      sheet.apply depth spec (sheet.apply depth spec s) = sheet.apply depth spec s) ∧
    ∀ a b, sheet.resolve (a ++ ",none,".toList ++ b) = sheet.resolve b := by
  refine ⟨sheet.apply_append, ?_, ?_, apply_apply, ?_⟩
  · intro names
    refine ⟨sheet.apply_join maxDepth names .default, ?_⟩
    by_cases hspec : Text.join [','] names = []
    · rw [Pen.within, Resolver.styleAt, if_pos hspec, hspec]
      exact (sheet.apply_nil maxDepth .default).symm
    · exact Resolver.styleAt_of_ne_nil sheet.resolve hspec
  · exact fun depth spec => ⟨Resets.replaced, overlaid_of_not_resets⟩
  · intro a b
    have hparts : a ++ ",none,".toList ++ b = a ++ ',' :: ("none".toList ++ ',' :: b) := by simp
    rw [hparts, resolve, apply_append, apply_append, apply_none]
    rfl

/-- A reset that is hidden in a name, and a name that goes round in a circle without one. -/
theorem apply_cascades_named :
    let sheet := StyleSheet.ofList
      [("calm".toList, "none,dim".toList), ("loop".toList, "bold,.loop".toList)]
    let below := Style.default.withAttribute .italic
    (sheet.Resets maxDepth "fg:red, calm".toList ∧
      (sheet.apply maxDepth "fg:red, calm".toList below).parameters = [['2']]) ∧
    (¬ sheet.Resets maxDepth "fg:red,loop".toList ∧
      (sheet.apply maxDepth "fg:red,loop".toList below).parameters = [['3', '1'], ['1'], ['3']]) :=
  have hkinds := (apply_cascades (StyleSheet.ofList
    [("calm".toList, "none,dim".toList), ("loop".toList, "bold,.loop".toList)])).2.2.1 maxDepth
  ⟨⟨by decide +kernel,
      (congrArg Style.parameters ((hkinds _).1 (by decide +kernel) _)).trans (by decide +kernel)⟩,
    ⟨by decide +kernel,
      (congrArg Style.parameters ((hkinds _).2 (by decide +kernel) _)).trans (by decide +kernel)⟩⟩

end StyleSheet

end LogLine
