-- SUMMARY: Styled text written back as markup reads as the same runs, also inside further scopes.
import LogLine.Proofs.Markup.Evaluation

/-!
# Round trips

What an evaluation gives can be written back as markup. Read again, below any
scopes, it gives the same runs, each with the names of these scopes before its
spec. It takes that no spec of an evaluated text can end a name early, whatever
the markup, and that what is written back leaves the reader as it was.
-/

namespace LogLine

namespace Markup

/-! ## Scopes around markup -/

/-- Markup inside scopes with the given names, the outermost first. -/
def nest (names : List Text) (body : Text) : Text := names.foldr scope body

/-- A spec inside scopes with the given names. -/
def specWithin (names : List Text) (spec : Text) : Text :=
  Text.join [','] (if spec = [] then names else names ++ [spec])

theorem specWithin_nil (spec : Text) : specWithin [] spec = spec := by
  cases spec <;> simp [specWithin, Text.join, List.intercalate]

theorem specWithin_of_ne_nil {names : List Text} (hnames : names ≠ []) (spec : Text) :
    specWithin names spec =
      Text.join [','] names ++ if spec = [] then [] else ',' :: spec := by
  cases spec with
  | nil => simp [specWithin]
  | cons c spec => simp [specWithin, Text.join_concat_of_ne_nil hnames]

/-- Scopes around a text keep its specs apart. -/
theorem specWithin_inj {names : List Text} {s t : Text}
    (h : specWithin names s = specWithin names t) : s = t := by
  cases names with
  | nil => rwa [specWithin_nil, specWithin_nil] at h
  | cons n names =>
    have hne : n :: names ≠ [] := List.cons_ne_nil n names
    rw [specWithin_of_ne_nil hne, specWithin_of_ne_nil hne, List.append_cancel_left_eq] at h
    cases s <;> cases t <;> simp_all

end Markup

/-- The run inside scopes with the given names. -/
def Run.within (resolver : Resolver) (names : List Text) (r : Run) : Run :=
  { r with
    spec := Markup.specWithin names r.spec
    style := resolver.styleAt (Markup.specWithin names r.spec) }

namespace Markup

open Markup (Reads)

/-- The pen inside further scopes. -/
def pensInside (resolver : Resolver) (names : List Text) (p : Pen) : Pen :=
  names.foldl (fun p name => p.inside resolver name) p

/-- The pen of a run inside a pen. -/
def penInside (resolver : Resolver) (p : Pen) (r : Run) : Pen :=
  if r.spec = [] then p else p.inside resolver r.spec

variable {resolver : Resolver}

theorem Reads.nest {names : List Text} (hnames : ∀ n ∈ names, IsName n) {m : Text}
    {f : Pen → List Glyph} (h : Reads resolver m f) :
    Reads resolver (Markup.nest names m) fun p => f (pensInside resolver names p) := by
  induction names with
  | nil => exact h
  | cons n names ih =>
    exact Reads.scope (hnames n List.mem_cons_self)
      (ih fun n' hn' => hnames n' (List.mem_cons_of_mem n hn'))

theorem pensInside_default {names : List Text} (hnames : ∀ n ∈ names, n ≠ []) :
    pensInside resolver names .default = .within resolver names := by
  induction names using List.reverseRecOn with
  | nil => rfl
  | append_singleton names n ih =>
    have hinit : ∀ n' ∈ names, n' ≠ [] := fun n' hn' => hnames n' (List.mem_append_left _ hn')
    rw [pensInside, List.foldl_concat, ← pensInside, ih hinit]
    exact Pen.inside_within hinit (hnames n (by simp))

theorem penInside_within {names : List Text} (hnames : ∀ n ∈ names, n ≠ []) (r : Run) :
    penInside resolver (.within resolver names) r = (r.within resolver names).pen := by
  by_cases h : r.spec = []
  · simp [penInside, h, Run.within, Run.pen, specWithin, Pen.within]
  · rw [penInside, if_neg h, Pen.inside_within hnames h]
    simp [Run.within, Run.pen, specWithin, Pen.within, h]

/-! ## Reading runs -/

theorem reads_run {r : Run} (h : r.pen.Valid resolver) :
    Reads resolver r.toMarkup fun p => (penInside resolver p r).write r.text := by
  by_cases hspec : r.spec = []
  · simp only [Run.toMarkup, Run.isDefault, penInside, hspec, List.isEmpty_nil, if_true]
    exact Reads.escape r.text
  · have hempty : r.isDefault = false := by simp [Run.isDefault, hspec]
    simp only [Run.toMarkup, penInside, hspec, hempty, if_false, Bool.false_eq_true]
    exact Reads.scope (h.isName hspec) (Reads.escape r.text)

theorem reads_runs {rs : List Run} (h : ∀ r ∈ rs, r.pen.Valid resolver) :
    Reads resolver (rs.flatMap Run.toMarkup) fun p =>
      rs.flatMap fun r => (penInside resolver p r).write r.text := by
  induction rs with
  | nil => exact Reads.nil
  | cons r rs ih =>
    exact (reads_run (h r List.mem_cons_self)).append
      (ih fun r' hr' => h r' (List.mem_cons_of_mem r hr'))

end Markup

/-! ## Evaluated text -/

/-- The pen of text that was written with a pen and is read again inside another one. -/
def Pen.under (p : Pen) (resolver : Resolver) (outer : Pen) : Pen :=
  if p.spec = [] then outer else outer.inside resolver p.spec

def Glyph.under (resolver : Resolver) (outer : Pen) (g : Glyph) : Glyph :=
  ⟨g.char, g.pen.under resolver outer⟩

namespace StyledText

/-- Every run is shown by one of its glyphs. -/
theorem Filled.exists_glyph {t : StyledText} (h : t.Filled) {r : Run} (hr : r ∈ t.runs) :
    ∃ g ∈ t.glyphs, g.pen = r.pen := by
  obtain ⟨c, text, htext⟩ := List.exists_cons_of_ne_nil (h r hr)
  refine ⟨⟨c, r.pen⟩, List.mem_flatMap.mpr ⟨r, hr, ?_⟩, rfl⟩
  simp [Run.glyphs, htext]

theorem valid_of_mem_runs {resolver : Resolver} {gs : List Glyph}
    (h : ∀ g ∈ gs, g.pen.Valid resolver) : ∀ r ∈ (ofGlyphs gs).runs, r.pen.Valid resolver := by
  intro r hr
  obtain ⟨g, hg, hpen⟩ := (canonical_ofGlyphs gs).filled.exists_glyph hr
  rw [glyphs_ofGlyphs fun g hg => (h g hg).style_eq] at hg
  exact hpen ▸ h g hg

/-- Glyphs that are written back as markup show themselves, with their pens inside the one around
    the markup. -/
theorem reads_ofGlyphs {resolver : Resolver} {gs : List Glyph}
    (h : ∀ g ∈ gs, g.pen.Valid resolver) :
    Markup.Reads resolver (ofGlyphs gs).toMarkup fun p => gs.map (Glyph.under resolver p) := by
  have hglyphs : (ofGlyphs gs).glyphs = gs :=
    glyphs_ofGlyphs fun g hg => (h g hg).style_eq
  have hshown (p : Pen) : (ofGlyphs gs).runs.flatMap
      (fun r => (Markup.penInside resolver p r).write r.text) =
        gs.map (Glyph.under resolver p) := by
    conv_rhs => rw [← hglyphs, glyphs, List.map_flatMap]
    refine List.flatMap_congr fun r _ => ?_
    rw [Run.glyphs, Pen.write, Pen.write, List.map_map]
    rfl
  intro q hq
  exact (Markup.reads_runs (valid_of_mem_runs h) q hq).trans (congrArg (q, ·) (hshown q.pen))

/-- Scopes around a text keep its runs maximal. -/
theorem Canonical.within {t : StyledText} (h : t.Canonical) (resolver : Resolver)
    (names : List Text) : Canonical ⟨t.runs.map (Run.within resolver names)⟩ := by
  refine ⟨?_, ?_⟩
  · intro r hr
    obtain ⟨q, hq, rfl⟩ := List.mem_map.mp hr
    exact h.filled q hq
  · rw [List.isChain_map]
    exact h.specs_ne.imp fun r r' hne heq => hne (Markup.specWithin_inj heq)

end StyledText

namespace Expression

theorem valid_of_mem_runs {e : Expression} {m : Text} :
    ∀ r ∈ (e.evaluate m).runs, r.pen.Valid e.resolver := by
  rw [evaluate_eq]
  exact StyledText.valid_of_mem_runs fun _ hg => valid_of_mem_shown hg

theorem evaluate_nest (e : Expression) (m : Text) {names : List Text}
    (hnames : ∀ n ∈ names, Markup.IsName n) :
    e.unlimited.evaluate (Markup.nest names (e.evaluate m).toMarkup) =
      ⟨(e.evaluate m).runs.map (Run.within e.resolver names)⟩ := by
  have hreads := (Markup.reads_runs (e.valid_of_mem_runs (m := m))).nest hnames
  have hne : ∀ n ∈ names, n ≠ [] := fun n hn => (hnames n hn).ne_nil
  -- Both sides have maximal runs, so it is enough to compare what they show.
  refine (canonical_evaluate _ _).ext ((e.canonical_evaluate m).within e.resolver names) ?_
  rw [glyphs_evaluate, shown_unlimited]
  refine hreads.glyphs_eq.trans ?_
  simp only [Markup.pensInside_default hne, Markup.penInside_within hne, StyledText.glyphs,
    List.flatMap_map]
  rfl

/-- Without scopes around them, the runs of an evaluated text are what they were. -/
theorem map_within_nil (e : Expression) (m : Text) :
    (e.evaluate m).runs.map (Run.within e.resolver []) = (e.evaluate m).runs := by
  have hself : ∀ r ∈ (e.evaluate m).runs, r.within e.resolver [] = r := by
    intro r hr
    have hstyle : r.style = e.resolver.styleAt r.spec := (valid_of_mem_runs r hr).style_eq
    simp only [Run.within, Markup.specWithin_nil, ← hstyle]
  rw [List.map_congr_left hself, List.map_id']

/-- An evaluated text that is written back below scopes evaluates to its runs, with the names of
    the scopes before their specs. Without scopes it evaluates to itself. -/
theorem evaluate_nest_toMarkup (e : Expression) (m : Text) {names : List Text}
    (hnames : ∀ n ∈ names, Markup.IsName n) :
    (e.unlimited.evaluate (Markup.nest names (e.evaluate m).toMarkup)).runs =
        (e.evaluate m).runs.map (Run.within e.resolver names) ∧
      e.unlimited.evaluate (e.evaluate m).toMarkup = e.evaluate m := by
  refine ⟨by rw [evaluate_nest e m hnames], ?_⟩
  have hback := e.evaluate_nest m (List.forall_mem_nil Markup.IsName)
  rw [map_within_nil] at hback
  exact hback

theorem evaluate_nest_toMarkup_cut :
    (({} : Expression).unlimited.evaluate (Markup.nest [['s'], ['t']]
        (({ limit := some 3, ellipsis := ['@'] } : Expression).evaluate
          "a\\\x7d@\x7bu bcd\x7d".toList).toMarkup)).runs =
      [⟨['a', '\x7d'], "s,t".toList, .default⟩, ⟨['@'], "s,t,u".toList, .default⟩] :=
  (evaluate_nest_toMarkup { limit := some 3, ellipsis := ['@'] } _ (by decide)).1.trans
    (by decide +kernel)

end Expression

end LogLine
