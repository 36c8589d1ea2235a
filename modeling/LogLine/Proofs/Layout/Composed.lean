-- SUMMARY: A plain value in a styled and decorated column: what it adds to a line, glyph by glyph.
import LogLine.Proofs.Layout.Fitted

/-!
# Plain values in decorated columns

A plain value goes through two evaluations on its way to a line. In the first it is cut, in
the scopes of the templates around it; then it is padded, written back as markup and read
again inside the decoration. It arrives as it left: the cut value with the pen that all
these scopes make together, and the padding with the pen of the decoration.
-/

namespace LogLine

open Markup (IsName Reader Reads nest pensInside pensInside_default replace_nest)
open StyledText (ofGlyphs)

/-! ## Cutting -/

/-- Glyphs with one pen are cut like their text, and the ellipsis has their pen. -/
theorem Expression.cut_write (e : Expression) (limit : Nat) (p : Pen) (t : Text) :
    e.cut limit (p.write t) = p.write (e.cutText limit t) := by
  have hlength : (p.write t).length = t.length := List.length_map _
  unfold cutText
  rcases Nat.lt_or_ge limit t.length with hlen | hlen
  · have hpen : (p.write t)[limit].pen = p := Pen.pen_of_mem_write (List.getElem_mem _)
    rw [cut_of_lt (hlength ▸ hlen), if_neg (Nat.not_le.mpr hlen), hpen, Pen.write_append]
    exact congrArg (· ++ _) List.map_take.symm
  · rw [cut_of_le (hlength ▸ hlen), if_pos hlen]

namespace Field

variable {e : Expression} {f : Field} {before after : Text} {own : List Text}
  {level : Option (List Text)}

/-! ## Templates of nested scopes -/

/-- The template of a level that is made of scopes around the text, given their names. -/
def levelNest (level : Option (List Text)) : Option Text :=
  level.map fun names => nest names (LogLine.placeholder "text".toList)

/-- The names of all scopes around a value: those of the level's template are the outer ones. -/
def scopeNames (level : Option (List Text)) (own : List Text) : List Text := level.getD [] ++ own

theorem isName_of_mem_scopeNames (hown : ∀ n ∈ own, IsName n)
    (hlevel : ∀ names ∈ level, ∀ n ∈ names, IsName n) : ∀ n ∈ scopeNames level own, IsName n := by
  intro n hn
  rcases List.mem_append.mp hn with hn | hn
  · cases level with
    | none => cases hn
    | some names => exact hlevel names rfl n hn
  · exact hown n hn

/-- A value in the field's template, itself in the template of a level, is in all their scopes. -/
theorem replace_template (hstyle : f.style = nest own f.placeholder)
    (hown : ∀ n ∈ own, IsName n) (hlevel : ∀ names ∈ level, ∀ n ∈ names, IsName n)
    (value : Text) :
    Text.replace f.placeholder value (f.template (levelNest level)) =
      nest (scopeNames level own) value := by
  have hnames := isName_of_mem_scopeNames hown hlevel
  have htemplate : f.template (levelNest level) = nest (scopeNames level own) f.placeholder := by
    cases level with
    | none => exact hstyle
    | some names =>
      rw [levelNest, Option.map_some, template, replace_nest (hlevel names rfl), hstyle]
      exact List.foldr_append.symm
  rw [htemplate]
  exact replace_nest hnames f.name value

/-- A plain value is cut to the room in the scopes of its templates. -/
theorem fit_escape (hstyle : f.style = nest own f.placeholder) (hown : ∀ n ∈ own, IsName n)
    (hlevel : ∀ names ∈ level, ∀ n ∈ names, IsName n) (value : Text) (allocated : Nat) :
    f.fit e (Markup.escape value) allocated (levelNest level) =
      ofGlyphs ((Pen.within e.resolver (scopeNames level own)).write
        (e.cutText (f.room e allocated) value)) := by
  have hnames := isName_of_mem_scopeNames hown hlevel
  have hroom : 1 ≤ f.room e allocated := Nat.le_max_right _ _
  have hreads : Reads e.resolver (nest (scopeNames level own) (Markup.escape value)) fun p =>
      (pensInside e.resolver (scopeNames level own) p).write value :=
    (Reads.escape value).nest hnames
  rw [fit, Expression.evaluate_eq, Expression.shown_limited e hroom, Expression.shown_unlimited,
    replace_template hstyle hown hlevel, hreads.glyphs_eq,
    pensInside_default fun n hn => (hnames n hn).ne_nil, Expression.cut_write]

/-! ## Columns -/

/-- A plain value in a column whose templates are nested scopes and whose decoration has its
    placeholder once, between characters of text. After the gap, the line gets the text that the
    decoration shows before the value, the value, cut and padded to what the decoration leaves of
    the column, though to one cell at least, and the text that the decoration shows after it. The
    characters of the value have the pen of the scopes that the decoration opens around it with
    those of the templates inside them, and the padding has the pen of the former. -/
theorem render_fits_value (h : f.Decorated e.resolver before after)
    (hstyle : f.style = nest own f.placeholder) (hown : ∀ n ∈ own, IsName n)
    (hlevel : ∀ names ∈ level, ∀ n ∈ names, IsName n) (gap : Nat) (value : Text)
    (allocated : Nat) (first : Bool) (line : StyledText) :
    let available := max (allocated - f.decorationWidth e) 1
    let fitted := e.cutText available value
    let start := (Reader.feedAll e.resolver {} before).1
    let rendered :=
      f.render e gap (Markup.escape value) allocated (levelNest level) first line
    rendered.toText = line.toText ++ (if first then [] else List.replicate gap ' ') ++
        (lead e.resolver before ++ f.align.padText e.hyphen available fitted ++
          trail e.resolver before after) ∧
      rendered = (if first then line else line.pushSpaces gap) ++
        ofGlyphs ((Reader.feedAll e.resolver {} before).2 ++
          f.align.padded ⟨' ', start.pen⟩ (available - fitted.width e.hyphen)
            (((Pen.within e.resolver (scopeNames level own)).under e.resolver start.pen).write
              fitted) ++
          start.glyphsFrom e.resolver after) := by
  intro available fitted start rendered
  have hfit : f.fit e (Markup.escape value) allocated (levelNest level) =
      ofGlyphs ((Pen.within e.resolver (scopeNames level own)).write fitted) :=
    fit_escape hstyle hown hlevel value allocated
  refine ⟨?_, ?_⟩
  · have hrendered : rendered.toText = _ :=
      toText_render h gap (Markup.escape value) allocated (levelNest level) first line
    rw [hrendered, toText_pad, hfit, StyledText.toText_ofGlyphs, Pen.map_char_write]
    rfl
  · have hvalid : ∀ g ∈ (Pen.within e.resolver (scopeNames level own)).write fitted,
        g.pen.Valid e.resolver := by
      intro g hg
      rw [Pen.pen_of_mem_write hg]
      exact Pen.valid_within (isName_of_mem_scopeNames hown hlevel)
    have hrendered : rendered = _ := render_eq h hvalid hfit gap first line
    rw [hrendered, Pen.map_char_write, Pen.write, List.map_map]
    rfl

/-! A level in brackets, both in scopes, in a column of thirteen cells. -/

def bracketedLevel : Field :=
  { name := "level".toList
    align := .center
    style := nest ["bold".toList] (LogLine.placeholder "level".toList)
    decoration := "@\x7bfg:blue [".toList ++ LogLine.placeholder "level".toList ++ "]\x7d".toList }

theorem decorated_bracketedLevel (resolver : Resolver) :
    bracketedLevel.Decorated resolver "@\x7bfg:blue [".toList "]\x7d".toList :=
  ⟨by decide, by rfl⟩

theorem render_fits_value_bracketed :
    let rendered := bracketedLevel.render { ellipsis := ['…'] } 1
      (Markup.escape "\x7d日ERROR".toList) 13 (levelNest (some ["fg:red".toList])) false
      (StyledText.plain "db".toList)
    rendered.toText = "db [ \x7d日ERROR]".toList ∧
      rendered.runs.map (fun r => (r.text, r.spec)) =
        [("db ".toList, []), ("[ ".toList, "fg:blue".toList),
          ("\x7d日ERROR".toList, "fg:blue,fg:red,bold".toList),
          ("]".toList, "fg:blue".toList)] := by
  obtain ⟨htext, hstyled⟩ := @render_fits_value { ellipsis := ['…'] } bracketedLevel
    "@\x7bfg:blue [".toList "]\x7d".toList ["bold".toList] (some ["fg:red".toList])
    (decorated_bracketedLevel .none) (by decide) (by decide) (by decide) 1
    "\x7d日ERROR".toList 13 false (StyledText.plain "db".toList)
  refine ⟨htext.trans (by decide +kernel), ?_⟩
  rw [hstyled]
  decide +kernel

end Field

end LogLine
