-- SUMMARY: What a column with the templates of an unchanged field shows: its value, cut and padded.
import LogLine.Proofs.Layout.Column
import LogLine.Proofs.Markup.Template

/-!
# Fitted values

A field has its placeholder for both templates unless they are set. Its column shows
the text of the value, cut to the planned cells and padded to them. The template of a
level may go around it, as long as it is made of scopes only.
-/

namespace LogLine

open Markup (IsNest Shows)

/-- A text cut to a number of characters. The ellipsis takes the place of those that are cut off,
    and of as many before them as it has cells. -/
def Expression.cutText (e : Expression) (limit : Nat) (t : Text) : Text :=
  if t.length ≤ limit then t else t.take (e.kept limit) ++ e.ellipsis

/-- A text padded with spaces to a number of cells. -/
def Alignment.padText (hyphen : SoftHyphen) (width : Nat) (t : Text) : Alignment → Text
  | .left => t ++ List.replicate (width - t.width hyphen) ' '
  | .center => List.replicate ((width - t.width hyphen) / 2) ' ' ++ t
  | .right => List.replicate (width - t.width hyphen) ' ' ++ t

theorem Expression.map_char_cut (e : Expression) (limit : Nat) (gs : List Glyph) :
    (e.cut limit gs).map Glyph.char = e.cutText limit (gs.map Glyph.char) := by
  unfold cutText
  rw [List.length_map]
  rcases Nat.lt_or_ge limit gs.length with hlen | hlen
  · rw [cut_of_lt hlen, if_neg (Nat.not_le.mpr hlen), List.map_append, List.map_take,
      Pen.map_char_write]
  · rw [cut_of_le hlen, if_pos hlen]

/-- Under a limit, markup shows its text cut. -/
theorem Markup.Shows.toText_limited {e : Expression} {m t : Text} (h : Shows e.resolver m t)
    {limit : Nat} (hlimit : 1 ≤ limit) :
    ((e.limited limit).evaluate m).toText = e.cutText limit t := by
  rw [Expression.toText_evaluate, Expression.shown_limited e hlimit, Expression.shown_unlimited,
    Expression.map_char_cut, h.map_char_glyphs]

namespace Field

variable {e : Expression} {f : Field}

theorem toText_pad (hyphen : SoftHyphen) (align : Alignment) (width : Nat) (value : StyledText) :
    (pad hyphen align width value).toText = align.padText hyphen width value.toText := by
  cases align <;>
    simp only [pad, Alignment.padText, StyledText.width_eq, StyledText.toText_append,
      StyledText.toText_plain]

/-- A text cut and padded to the cells of a column. -/
def fitText (e : Expression) (f : Field) (width : Nat) (t : Text) : Text :=
  f.align.padText e.hyphen width (e.cutText width t)

/-- A field with the templates that a field has unless they are set. -/
structure Unchanged (f : Field) : Prop where
  style : f.style = f.placeholder
  decoration : f.decoration = f.placeholder

namespace Unchanged

theorem decorated (h : f.Unchanged) (resolver : Resolver) : f.Decorated resolver [] [] where
  once :=
    { eq := by rw [h.decoration, List.nil_append, List.append_nil]
      first := fun i hi => absurd hi (Nat.not_lt_zero i)
      last := fun hinfix => f.placeholder_ne_nil (List.infix_nil.mp hinfix) }
  at_text := rfl

theorem decorationWidth_eq (h : f.Unchanged) (e : Expression) : f.decorationWidth e = 0 :=
  (h.decorated e.resolver).decorationWidth_eq

theorem room_eq (h : f.Unchanged) {allocated : Nat} (hpos : 1 ≤ allocated) :
    f.room e allocated = allocated := by
  have hwidth := h.decorationWidth_eq e
  rw [Field.room_eq (by omega), hwidth, Nat.sub_zero]

/-- A value in the field's template shows what it is, also in the template of a level. -/
theorem shows (h : f.Unchanged) {resolver : Resolver} {level : Option Text}
    (hlevel : ∀ template ∈ level, IsNest "text".toList template) {value t : Text}
    (hvalue : Shows resolver value t) :
    Shows resolver (Text.replace f.placeholder value (f.template level)) t := by
  have hstyle : IsNest f.name f.style := h.style ▸ Markup.isNest_placeholder f.name
  have htemplate : IsNest f.name (f.template level) := by
    cases level with
    | none => exact hstyle
    | some template => exact (hlevel template rfl).replace hstyle
  exact htemplate.shows hvalue

/-- A column adds the text of its value to a line, cut and padded to its cells, after a gap unless
    it is the first. -/
theorem toText_render (h : f.Unchanged) {level : Option Text}
    (hlevel : ∀ template ∈ level, IsNest "text".toList template) {value t : Text}
    (hvalue : Shows e.resolver value t) {allocated : Nat} (hpos : 1 ≤ allocated) (gap : Nat)
    (first : Bool) (line : StyledText) :
    (f.render e gap value allocated level first line).toText =
      line.toText ++ (if first then [] else List.replicate gap ' ') ++
        f.fitText e allocated t := by
  have hfit : (f.fit e value allocated level).toText = e.cutText allocated t := by
    rw [fit, h.room_eq hpos]
    exact (h.shows hlevel hvalue).toText_limited hpos
  rw [Field.toText_render (h.decorated e.resolver), toText_pad, h.room_eq hpos, hfit]
  -- The decoration has nothing around the value.
  exact congrArg _ (List.append_nil _)

end Unchanged

end Field

end LogLine
