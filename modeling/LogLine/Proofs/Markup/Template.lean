-- SUMMARY: Templates of scopes around a placeholder, and the values that are put into them.
import LogLine.Layout.Field
import LogLine.Proofs.Markup.RoundTrip
import LogLine.Proofs.Text.Replace

/-!
# Templates

A template of nested scopes around a placeholder colours what is put in its place
and shows nothing of its own. The placeholder is found where it stands, whatever its
name is: it ends with a brace, and no brace closes before it.
-/

namespace LogLine.Markup

/-- A template of nested scopes around a single placeholder. -/
def IsNest (name template : Text) : Prop :=
  ∃ names, (∀ n ∈ names, IsName n) ∧ template = nest names (placeholder name)

theorem isNest_placeholder (name : Text) : IsNest name (placeholder name) :=
  ⟨[], List.forall_mem_nil IsName, rfl⟩

/-- What opens nested scopes. -/
def opening (names : List Text) : Text := names.flatMap fun n => '@' :: '\x7b' :: n ++ [' ']

theorem nest_eq (names : List Text) (body : Text) :
    nest names body = opening names ++ body ++ List.replicate names.length '\x7d' := by
  induction names with
  | nil => simp [nest, opening]
  | cons n names ih =>
    have hnest : nest (n :: names) body = scope n (nest names body) := rfl
    simp [hnest, ih, scope, opening, List.replicate_succ']

theorem not_mem_opening {names : List Text} (hnames : ∀ n ∈ names, IsName n) :
    '\x7d' ∉ opening names := by
  intro hmem
  obtain ⟨n, hn, hmem⟩ := List.mem_flatMap.mp hmem
  have hbrace := (hnames n hn).no_brace
  simp [hbrace] at hmem

/-- The placeholder of a nest is replaced, and the scopes stay. -/
theorem replace_nest {names : List Text} (hnames : ∀ n ∈ names, IsName n) (name value : Text) :
    Text.replace (placeholder name) value (nest names (placeholder name)) = nest names value := by
  have hclosing : ¬ placeholder name <:+: List.replicate names.length '\x7d' := by
    intro hinfix
    have hmem : '$' ∈ List.replicate names.length '\x7d' := hinfix.subset List.mem_cons_self
    simp at hmem
  have hbrace : '\x7d' ∈ placeholder name := by simp [placeholder]
  have honce := Text.HoldsOnce.of_not_mem hbrace (not_mem_opening hnames) hclosing
  rw [nest_eq, nest_eq, honce.replace_eq (List.cons_ne_nil _ _)]

/-- A nest in the place of a nest's placeholder is a nest. -/
theorem IsNest.replace {outer inner name template : Text} (houter : IsNest outer template)
    (hinner : IsNest name inner) :
    IsNest name (Text.replace (placeholder outer) inner template) := by
  obtain ⟨names, hnames, rfl⟩ := houter
  obtain ⟨names', hnames', rfl⟩ := hinner
  rw [replace_nest hnames]
  refine ⟨names ++ names', fun n hn => ?_, List.foldr_append.symm⟩
  rcases List.mem_append.mp hn with hn | hn
  · exact hnames n hn
  · exact hnames' n hn

variable {resolver : Resolver}

theorem Shows.nest {names : List Text} (hnames : ∀ n ∈ names, IsName n) {m t : Text}
    (h : Shows resolver m t) : Shows resolver (Markup.nest names m) t := by
  obtain ⟨f, hf, hft⟩ := h
  exact ⟨_, hf.nest hnames, fun p => hft (pensInside resolver names p)⟩

/-- A nest shows what is put in place of its placeholder. -/
theorem IsNest.shows {name template value t : Text} (htemplate : IsNest name template)
    (hvalue : Shows resolver value t) :
    Shows resolver (Text.replace (placeholder name) value template) t := by
  obtain ⟨names, hnames, rfl⟩ := htemplate
  rw [replace_nest hnames]
  exact hvalue.nest hnames

end LogLine.Markup
