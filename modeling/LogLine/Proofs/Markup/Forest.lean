-- SUMMARY: Nested scopes: the markup of a forest of scopes and literals, and what it shows.
import LogLine.Proofs.Markup.Evaluation

/-!
# Nested scopes

Markup is a notation for a forest whose leaves are literal texts and whose inner
nodes are scopes. What it means is said here without a reader: every character of
a leaf belongs to the scopes on the way to it, and its spec joins their names
from the outermost to the innermost. Evaluating the markup of a forest shows
that, whatever the texts and however deep the scopes.
-/

namespace LogLine

open StyledText (ofGlyphs)

namespace Markup

/-- A forest of scopes and literal texts, as the list of its trees. -/
inductive Forest where
  | nil
  /-- A literal text, and the trees after it. -/
  | literal (text : Text) (rest : Forest)
  /-- A scope with the forest inside it, and the trees after it. -/
  | scope (name : { name : Text // IsName name }) (body rest : Forest)

namespace Forest

/-- The markup of a forest. -/
def toMarkup : Forest → Text
  | nil => []
  | literal text rest => escape text ++ rest.toMarkup
  | scope name body rest => Markup.scope name body.toMarkup ++ rest.toMarkup

/-- The glyphs of a forest inside scopes with the given names, the outermost first. -/
def glyphs (resolver : Resolver) : (names : List Text) → Forest → List Glyph
  | _, nil => []
  | names, literal text rest => (Pen.within resolver names).write text ++ glyphs resolver names rest
  | names, scope name body rest =>
    glyphs resolver (names ++ [name.val]) body ++ glyphs resolver names rest

/-- The glyphs of a forest inside a pen. -/
def glyphsIn (resolver : Resolver) : Forest → Pen → List Glyph
  | nil, _ => []
  | literal text rest, p => p.write text ++ glyphsIn resolver rest p
  | scope name body rest, p =>
    glyphsIn resolver body (p.inside resolver name) ++ glyphsIn resolver rest p

theorem reads_toMarkup (resolver : Resolver) (f : Forest) :
    Reads resolver f.toMarkup (f.glyphsIn resolver) := by
  induction f with
  | nil => exact Reads.nil
  | literal text rest ih => exact (Reads.escape text).append ih
  | scope name body rest ihBody ihRest => exact (Reads.scope name.property ihBody).append ihRest

/-- The pens that a reader composes one scope at a time are those of the joined names. -/
theorem glyphsIn_within (resolver : Resolver) (f : Forest) {names : List Text}
    (hnames : ∀ n ∈ names, n ≠ []) :
    f.glyphsIn resolver (.within resolver names) = f.glyphs resolver names := by
  induction f generalizing names with
  | nil => rfl
  | literal text rest ih => rw [glyphsIn, glyphs, ih hnames]
  | scope name body rest ihBody ihRest =>
    have hname : name.val ≠ [] := name.property.ne_nil
    have hall : ∀ n ∈ names ++ [name.val], n ≠ [] := by
      intro n hn
      rcases List.mem_append.mp hn with hn | hn
      · exact hnames n hn
      · exact List.mem_singleton.mp hn ▸ hname
    rw [glyphsIn, glyphs, ihRest hnames, Pen.inside_within hnames hname, ihBody hall]

/-- Evaluating the markup of a forest shows the characters of its literals in order, each with the
    spec that joins the names of the scopes around it and with the style of that spec; the runs
    are the maximal groups of neighbours with equal specs. -/
theorem evaluate_toMarkup (e : Expression) (f : Forest) :
    (e.unlimited.evaluate f.toMarkup).glyphs = f.glyphs e.resolver [] ∧
      (e.unlimited.evaluate f.toMarkup).Canonical := by
  refine ⟨?_, Expression.canonical_evaluate _ _⟩
  rw [Expression.glyphs_evaluate, Expression.shown_unlimited,
    (reads_toMarkup e.resolver f).glyphs_eq, ← Pen.within_nil e.resolver]
  exact glyphsIn_within e.resolver f (by simp)

end Forest

end Markup

end LogLine
