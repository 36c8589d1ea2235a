-- SUMMARY: What a column shows, and that it takes exactly the cells that were planned for it.
import LogLine.Layout.Column
import LogLine.Proofs.Markup.RoundTrip
import LogLine.Proofs.Text.Replace
import LogLine.Proofs.Width.Cells

/-!
# Columns of a line

A column shows the text of its decoration before the value, the fitted and padded
value, and the text of the decoration after it. The decoration's own text is as
wide as it was measured without the value, because the value, written back as
markup, leaves the reader where it found it. What is cut to the room is never
wider than the room where no character takes two cells, so padding fills it.
-/

namespace LogLine

open StyledText (ofGlyphs)
open Markup (Reader Reads)

theorem StyledText.width_eq (hyphen : SoftHyphen) (t : StyledText) :
    t.width hyphen = t.toText.width hyphen :=
  (Text.width_flatMap hyphen Run.text t.runs).symm

/-! ## Padding -/

/-- A sequence with blanks beside it, given how many are missing. -/
def Alignment.padded {α : Type} (blank : α) (missing : Nat) (value : List α) : Alignment → List α
  | .left => value ++ List.replicate missing blank
  | .center => List.replicate (missing / 2) blank ++ value
  | .right => List.replicate missing blank ++ value

namespace Alignment

theorem map_padded {α β : Type} (g : α → β) (align : Alignment) (blank : α) (missing : Nat)
    (value : List α) :
    (align.padded blank missing value).map g = align.padded (g blank) missing (value.map g) := by
  cases align <;> simp only [padded, List.map_append, List.map_replicate]

theorem forall_mem_padded {α : Type} {p : α → Prop} {blank : α} (hblank : p blank)
    {value : List α} (hvalue : ∀ a ∈ value, p a) (align : Alignment) (missing : Nat) :
    ∀ a ∈ align.padded blank missing value, p a := by
  intro a ha
  have hmem : a ∈ value ∨ a = blank := by
    cases align <;> simp only [padded, List.mem_append, List.mem_replicate] at ha <;> tauto
  rcases hmem with hmem | rfl
  · exact hvalue a hmem
  · exact hblank

end Alignment

namespace Field

variable {e : Expression} {f : Field} {before after : Text}

/-! ## Decorations -/

/-- A decoration with its placeholder once, between two parts. A reader that has read the first
    part stands between characters of text. -/
structure Decorated (resolver : Resolver) (f : Field) (before after : Text) : Prop where
  once : Text.HoldsOnce f.placeholder f.decoration before after
  at_text : (Reader.feedAll resolver {} before).1.mode = .text

/-- The text that a decoration shows before its value. -/
def lead (resolver : Resolver) (before : Text) : Text :=
  (Reader.feedAll resolver {} before).2.map Glyph.char

/-- The text that a decoration shows after its value. -/
def trail (resolver : Resolver) (before after : Text) : Text :=
  ((Reader.feedAll resolver {} before).1.glyphsFrom resolver after).map Glyph.char

theorem placeholder_ne_nil (f : Field) : f.placeholder ≠ [] := List.cons_ne_nil _ _

/-- What a decoration shows with markup in it that leaves the reader as it was. -/
theorem Decorated.shown_replace (h : f.Decorated e.resolver before after) {m : Text}
    {shown : Pen → List Glyph} (hm : Reads e.resolver m shown) :
    e.unlimited.shown (Text.replace f.placeholder m f.decoration) =
      (Reader.feedAll e.resolver {} before).2 ++
        shown (Reader.feedAll e.resolver {} before).1.pen ++
        (Reader.feedAll e.resolver {} before).1.glyphsFrom e.resolver after := by
  rw [h.once.replace_eq f.placeholder_ne_nil, Expression.shown_unlimited,
    hm.glyphs_between h.at_text]

/-- The measure of a decoration is the width of what it shows around its value. -/
theorem Decorated.decorationWidth_eq (h : f.Decorated e.resolver before after) :
    f.decorationWidth e =
      (lead e.resolver before).width e.hyphen + (trail e.resolver before after).width e.hyphen := by
  have hbare := h.shown_replace (e := e) Reads.nil
  rw [decorationWidth, StyledText.width_eq, Expression.toText_evaluate, hbare, List.append_nil,
    List.map_append, Text.width_append]
  rfl

/-! ## Values -/

/-- Padding puts spaces beside a value. -/
theorem pad_ofGlyphs (hyphen : SoftHyphen) (align : Alignment) (width : Nat) (gs : List Glyph) :
    pad hyphen align width (ofGlyphs gs) = ofGlyphs (align.padded ⟨' ', .default⟩
      (width - Text.width hyphen (gs.map Glyph.char)) gs) := by
  have hspaces (n : Nat) : StyledText.plain (List.replicate n ' ') =
      ofGlyphs (List.replicate n ⟨' ', .default⟩) := by
    rw [StyledText.plain_eq_ofGlyphs, Pen.write, List.map_replicate]
  simp only [pad, hspaces, ← StyledText.ofGlyphs_append, StyledText.width_eq,
    StyledText.toText_ofGlyphs]
  cases align <;> rfl

/-- A padded value, written back as markup, shows itself inside the pen around it and leaves the
    reader as it was. -/
theorem reads_pad {resolver : Resolver} {gs : List Glyph} (h : ∀ g ∈ gs, g.pen.Valid resolver)
    (hyphen : SoftHyphen) (align : Alignment) (width : Nat) :
    Reads resolver (pad hyphen align width (ofGlyphs gs)).toMarkup fun p =>
      align.padded ⟨' ', p⟩ (width - Text.width hyphen (gs.map Glyph.char))
        (gs.map (Glyph.under resolver p)) := by
  have hvalid : ∀ g ∈ align.padded ⟨' ', .default⟩
      (width - Text.width hyphen (gs.map Glyph.char)) gs, g.pen.Valid resolver :=
    Alignment.forall_mem_padded (p := fun g : Glyph => g.pen.Valid resolver)
      (Pen.valid_default resolver) h align _
  have hreads := StyledText.reads_ofGlyphs hvalid
  simp only [Alignment.map_padded] at hreads
  rw [pad_ofGlyphs]
  exact hreads

/-- A value that is not wider than the column is padded to its width, unless it is centred. -/
theorem width_pad {hyphen : SoftHyphen} {align : Alignment} {width : Nat} {value : StyledText}
    (halign : align = .left ∨ align = .right) (hvalue : value.width hyphen ≤ width) :
    (pad hyphen align width value).width hyphen = width := by
  rw [StyledText.width_eq] at hvalue
  rcases halign with rfl | rfl
  all_goals
    simp only [pad, StyledText.width_eq, StyledText.toText_append, StyledText.toText_plain,
      Text.width_append, Text.width_spaces]
    omega

/-- Cutting to a limit leaves no more cells than the limit, where no character takes two and the
    ellipsis fits. -/
theorem width_cut_le {limit : Nat} {gs : List Glyph}
    (hnarrow : Text.Narrow e.hyphen (gs.map Glyph.char))
    (hellipsis : e.ellipsis.width e.hyphen ≤ limit) :
    Text.width e.hyphen ((e.cut limit gs).map Glyph.char) ≤ limit := by
  rcases Nat.lt_or_ge limit gs.length with hlen | hlen
  · have hkept : Text.width e.hyphen ((gs.take (e.kept limit)).map Glyph.char) ≤ e.kept limit := by
      have hkeeps : Text.Narrow e.hyphen ((gs.take (e.kept limit)).map Glyph.char) := by
        intro c hc
        rw [List.map_take] at hc
        exact hnarrow c (List.mem_of_mem_take hc)
      refine (Text.width_le_length e.hyphen hkeeps).trans ?_
      rw [List.length_map, List.length_take]
      exact Nat.min_le_left _ _
    rw [Expression.cut_of_lt hlen, List.map_append, Pen.map_char_write, Text.width_append]
    unfold Expression.kept at hkept ⊢
    split at hkept
    · next hempty =>
      simp only [hempty, Text.width_nil, if_true]
      exact hkept
    · next hne =>
      simp only [hne, if_false]
      omega
  · rw [Expression.cut_of_le hlen]
    exact (Text.width_le_length e.hyphen hnarrow).trans (by simpa using hlen)

/-! ## Columns -/

/-- A column adds to a line what its decoration shows, with the fitted and padded value in it. -/
theorem render_eq (h : f.Decorated e.resolver before after) {gs : List Glyph}
    (hvalid : ∀ g ∈ gs, g.pen.Valid e.resolver) {value : Text} {allocated : Nat}
    {level : Option Text} (hfit : f.fit e value allocated level = ofGlyphs gs) (gap : Nat)
    (first : Bool) (line : StyledText) :
    f.render e gap value allocated level first line =
      (if first then line else line.pushSpaces gap) ++
        ofGlyphs ((Reader.feedAll e.resolver {} before).2 ++
          f.align.padded ⟨' ', (Reader.feedAll e.resolver {} before).1.pen⟩
            (f.room e allocated - Text.width e.hyphen (gs.map Glyph.char))
            (gs.map (Glyph.under e.resolver (Reader.feedAll e.resolver {} before).1.pen)) ++
          (Reader.feedAll e.resolver {} before).1.glyphsFrom e.resolver after) := by
  -- The value is read where the decoration's own text leaves the reader.
  have hpad := reads_pad hvalid e.hyphen f.align (f.room e allocated)
  rw [← hfit] at hpad
  have hshown := h.shown_replace hpad
  rw [render, Expression.evaluateInto_eq, decorated, hshown]
  rfl

theorem toText_render (h : f.Decorated e.resolver before after) (gap : Nat) (value : Text)
    (allocated : Nat) (level : Option Text) (first : Bool) (line : StyledText) :
    (f.render e gap value allocated level first line).toText =
      line.toText ++ (if first then [] else List.replicate gap ' ') ++
        (lead e.resolver before ++
          (pad e.hyphen f.align (f.room e allocated) (f.fit e value allocated level)).toText ++
          trail e.resolver before after) := by
  have hfit : f.fit e value allocated level = ofGlyphs ((e.limited (f.room e allocated)).shown
      (Text.replace f.placeholder value (f.template level))) := Expression.evaluate_eq _ _
  have hgap : (if first then line else line.pushSpaces gap).toText =
      line.toText ++ if first then [] else List.replicate gap ' ' := by
    cases first with
    | true => exact (List.append_nil _).symm
    | false => exact StyledText.toText_push _ _ _ _
  rw [render_eq h (e.valid_of_mem_limited _ _) hfit, StyledText.toText_append, hgap, hfit, pad_ofGlyphs,
    StyledText.toText_ofGlyphs, StyledText.toText_ofGlyphs]
  simp only [List.map_append, Alignment.map_padded, List.map_map]
  rfl

theorem room_eq {allocated : Nat} (h : f.decorationWidth e < allocated) :
    f.room e allocated = allocated - f.decorationWidth e := by
  unfold room
  omega

/-- A value in the room that its decoration leaves is not wider than it. -/
theorem width_fit_le {value : Text} {allocated : Nat} {level : Option Text}
    (hroom : f.decorationWidth e < allocated)
    (hellipsis : e.ellipsis.width e.hyphen ≤ allocated - f.decorationWidth e)
    (hnarrow : Text.Narrow e.hyphen (e.unlimited.evaluate
      (Text.replace f.placeholder value (f.template level))).toText) :
    (f.fit e value allocated level).width e.hyphen ≤ allocated - f.decorationWidth e := by
  have hlimit := room_eq hroom
  have hpos : 1 ≤ f.room e allocated := Nat.le_max_right _ _
  rw [Expression.toText_evaluate] at hnarrow
  rw [← hlimit] at hellipsis ⊢
  rw [fit, StyledText.width_eq, Expression.toText_evaluate, Expression.shown_limited e hpos]
  exact width_cut_le hnarrow hellipsis

/-- A column takes exactly the cells that were planned for it. -/
theorem width_render (h : f.Decorated e.resolver before after)
    (halign : f.align = .left ∨ f.align = .right) {value : Text} {allocated : Nat}
    {level : Option Text} (hroom : f.decorationWidth e < allocated)
    (hellipsis : e.ellipsis.width e.hyphen ≤ allocated - f.decorationWidth e)
    (hnarrow : Text.Narrow e.hyphen (e.unlimited.evaluate
      (Text.replace f.placeholder value (f.template level))).toText)
    (gap : Nat) (first : Bool) (line : StyledText) :
    (f.render e gap value allocated level first line).width e.hyphen =
      line.width e.hyphen + (if first then 0 else gap) + allocated := by
  have hfit := width_fit_le hroom hellipsis hnarrow
  have hlimit := room_eq hroom
  have hpad := width_pad halign (hlimit ▸ hfit)
  have hdecoration := h.decorationWidth_eq
  rw [StyledText.width_eq] at hpad
  rw [StyledText.width_eq, toText_render h]
  simp only [Text.width_append, hpad]
  cases first <;> simp [StyledText.width_eq] <;> omega

end Field

end LogLine
