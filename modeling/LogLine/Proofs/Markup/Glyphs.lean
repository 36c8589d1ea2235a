-- SUMMARY: Styled text as the sequence of its glyphs, and the runs that a sequence of glyphs makes.
import LogLine.Markup.Expression
import Mathlib.Data.List.Chain

/-!
# Styled text as glyphs

A styled text shows a sequence of glyphs, cut into runs. Texts that are built by
adding keep their runs maximal: no run is empty and neighbours have different
specs. Such a text is known from its glyphs alone, so everything about the
evaluation of markup can be said of glyphs.
-/

namespace LogLine

/-! ## Glyphs -/

/-- A text written with one pen. -/
def Pen.write (p : Pen) (t : Text) : List Glyph := t.map (⟨·, p⟩)

@[simp] theorem Pen.write_nil (p : Pen) : p.write [] = [] := rfl

@[simp] theorem Pen.write_cons (p : Pen) (c : Char) (t : Text) :
    p.write (c :: t) = ⟨c, p⟩ :: p.write t := rfl

theorem Pen.write_append (p : Pen) (t u : Text) : p.write (t ++ u) = p.write t ++ p.write u :=
  List.map_append

@[simp] theorem Pen.map_char_write (p : Pen) (t : Text) : (p.write t).map Glyph.char = t := by
  simp [Pen.write, Function.comp_def]

theorem Pen.pen_of_mem_write {p : Pen} {t : Text} {g : Glyph} (h : g ∈ p.write t) : g.pen = p := by
  obtain ⟨c, _, rfl⟩ := List.mem_map.mp h
  rfl

/-- The pen that a run is written with. -/
def Run.pen (r : Run) : Pen := ⟨r.spec, r.style⟩

/-- The glyphs of a run. -/
def Run.glyphs (r : Run) : List Glyph := r.pen.write r.text

namespace StyledText

/-- The glyphs of a styled text. -/
def glyphs (t : StyledText) : List Glyph := t.runs.flatMap Run.glyphs

/-- The styled text of a sequence of glyphs. -/
def ofGlyphs (gs : List Glyph) : StyledText := gs.foldl Writer.add {}

/-- No run is empty. -/
def Filled (t : StyledText) : Prop := ∀ r ∈ t.runs, r.text ≠ []

/-- The runs are the maximal groups of neighbouring glyphs with equal specs: none is empty, and
    two neighbours never have the same spec. -/
structure Canonical (t : StyledText) : Prop where
  filled : t.Filled
  specs_ne : t.runs.IsChain (fun r r' => r.spec ≠ r'.spec)

/-- The style of every run is a function of its spec. -/
def StyledBy (styleOf : Text → Style) (t : StyledText) : Prop :=
  ∀ r ∈ t.runs, r.style = styleOf r.spec

theorem canonical_nil : ({} : StyledText).Canonical := ⟨by simp [Filled], List.isChain_nil⟩

theorem styledBy_nil (styleOf : Text → Style) : ({} : StyledText).StyledBy styleOf := by
  simp [StyledBy]

/-! ## Adding a run -/

/-- A new run meets the last one only. -/
theorem addRun_concat (new last : Run) (rs : List Run) :
    addRun new (rs ++ [last]) =
      if last.spec = new.spec then rs ++ [{ last with text := last.text ++ new.text }]
      else rs ++ [last, new] := by
  induction rs with
  | nil => simp only [List.nil_append, addRun]
  | cons r rs ih =>
    cases rs with
    | nil => simp only [List.cons_append, List.nil_append, addRun] at ih ⊢; split <;> rfl
    | cons r' rs =>
      simp only [List.cons_append, addRun] at ih ⊢
      rw [ih]
      split <;> rfl

/-- Runs with the same spec can be joined before they are added. The first one gives the style. -/
theorem addRun_addRun {q r : Run} (h : q.spec = r.spec) (rs : List Run) :
    addRun r (addRun q rs) = addRun { q with text := q.text ++ r.text } rs := by
  rcases List.eq_nil_or_concat rs with rfl | ⟨rs, last, rfl⟩
  · simp only [addRun, if_pos h]
  · by_cases hlast : last.spec = q.spec
    · simp only [List.concat_eq_append, addRun_concat, if_pos hlast, if_pos (hlast.trans h),
        List.append_assoc]
    · simp only [List.concat_eq_append, addRun_concat, if_neg hlast]
      rw [List.append_cons, addRun_concat, if_pos h, List.append_assoc]
      rfl

/-- Adding a run to a list of runs that is added in turn is adding it at the end. -/
theorem foldl_addRun_addRun (r : Run) (ts rs : List Run) :
    (addRun r rs).foldl (fun ts q => addRun q ts) ts =
      addRun r (rs.foldl (fun ts q => addRun q ts) ts) := by
  rcases List.eq_nil_or_concat rs with rfl | ⟨rs, last, rfl⟩
  · rfl
  · rw [List.concat_eq_append, addRun_concat]
    split
    · next h => simp only [List.foldl_append, List.foldl_cons, List.foldl_nil, addRun_addRun h]
    · simp only [List.foldl_append, List.foldl_cons, List.foldl_nil]

theorem mem_addRun {r new : Run} {rs : List Run} (h : r ∈ addRun new rs) :
    r ∈ rs ∨ r = new ∨ ∃ last ∈ rs, last.spec = new.spec ∧
      r = { last with text := last.text ++ new.text } := by
  rcases List.eq_nil_or_concat rs with rfl | ⟨rs, last, rfl⟩
  · exact .inr (.inl (List.mem_singleton.mp h))
  · rw [List.concat_eq_append, addRun_concat] at h
    rw [List.concat_eq_append]
    split at h
    · next hspec =>
      rcases List.mem_append.mp h with h | h
      · exact .inl (List.mem_append_left _ h)
      · exact .inr (.inr ⟨last, by simp, hspec, List.mem_singleton.mp h⟩)
    · simp only [List.mem_append, List.mem_cons, List.not_mem_nil, or_false] at h ⊢
      tauto

/-! ## Pushing -/

@[simp] theorem push_nil (t : StyledText) (spec : Text) (style : Style) :
    t.push [] spec style = t := rfl

theorem push_run {r : Run} (h : r.text ≠ []) (t : StyledText) :
    t.push r.text r.spec r.style = ⟨addRun r t.runs⟩ := if_neg h

theorem push_cons (t : StyledText) (c : Char) (text spec : Text) (style : Style) :
    t.push (c :: text) spec style = ⟨addRun ⟨c :: text, spec, style⟩ t.runs⟩ :=
  push_run (r := ⟨c :: text, spec, style⟩) (List.cons_ne_nil c text) t

/-- A text can be pushed in parts. -/
theorem push_append (t : StyledText) (a b spec : Text) (style : Style) :
    t.push (a ++ b) spec style = (t.push a spec style).push b spec style := by
  cases a with
  | nil => rw [List.nil_append, push_nil]
  | cons c a =>
    cases b with
    | nil => rw [List.append_nil, push_nil]
    | cons d b =>
      have hjoin : addRun ⟨d :: b, spec, style⟩ (addRun ⟨c :: a, spec, style⟩ t.runs) =
          addRun ⟨c :: a ++ d :: b, spec, style⟩ t.runs :=
        addRun_addRun (q := ⟨c :: a, spec, style⟩) (r := ⟨d :: b, spec, style⟩) rfl t.runs
      rw [push_cons, push_cons, List.cons_append, push_cons, ← List.cons_append, hjoin]

/-- Pushing a text is adding its characters one at a time. -/
theorem push_eq_foldl_add (t : StyledText) (text spec : Text) (style : Style) :
    t.push text spec style = (Pen.write ⟨spec, style⟩ text).foldl Writer.add t := by
  induction text generalizing t with
  | nil => rfl
  | cons c text ih =>
    rw [Pen.write_cons, List.foldl_cons, ← ih]
    exact push_append t [c] text spec style

theorem Filled.push {t : StyledText} (h : t.Filled) (text spec : Text) (style : Style) :
    (t.push text spec style).Filled := by
  cases text with
  | nil => exact h
  | cons c text =>
    rw [push_cons]
    intro r hr
    rcases mem_addRun hr with hr | rfl | ⟨last, _, _, rfl⟩
    · exact h r hr
    · exact List.cons_ne_nil c text
    · exact List.append_ne_nil_of_right_ne_nil _ (List.cons_ne_nil c text)

theorem Canonical.push {t : StyledText} (h : t.Canonical) (text spec : Text) (style : Style) :
    (t.push text spec style).Canonical := by
  refine ⟨h.filled.push text spec style, ?_⟩
  cases text with
  | nil => exact h.specs_ne
  | cons c text =>
    rw [push_cons]
    have hchain := h.specs_ne
    rcases List.eq_nil_or_concat t.runs with hruns | ⟨rs, last, hruns⟩
    · simp only [hruns, addRun, List.isChain_singleton]
    · simp only [hruns, List.concat_eq_append, addRun_concat] at hchain ⊢
      split
      · rw [List.isChain_append] at hchain ⊢
        simpa using hchain
      · next hspec =>
        rw [List.append_cons, List.isChain_append]
        simp [hchain, hspec]

theorem StyledBy.push {styleOf : Text → Style} {t : StyledText} (h : t.StyledBy styleOf)
    (text spec : Text) : (t.push text spec (styleOf spec)).StyledBy styleOf := by
  cases text with
  | nil => exact h
  | cons c text =>
    rw [push_cons]
    intro r hr
    rcases mem_addRun hr with hr | rfl | ⟨last, hlast, _, rfl⟩
    · exact h r hr
    · rfl
    · exact h last hlast

/-- Where specs decide on styles, pushing adds exactly the text's glyphs. -/
theorem glyphs_push {styleOf : Text → Style} {t : StyledText} (h : t.StyledBy styleOf)
    (text spec : Text) :
    (t.push text spec (styleOf spec)).glyphs =
      t.glyphs ++ Pen.write ⟨spec, styleOf spec⟩ text := by
  cases text with
  | nil => simp
  | cons c text =>
    rw [push_cons, glyphs, glyphs]
    rcases List.eq_nil_or_concat t.runs with hruns | ⟨rs, last, hruns⟩
    · simp [hruns, addRun, Run.glyphs, Run.pen]
    · have hlast : last.style = styleOf last.spec := h last (by simp [hruns])
      simp only [hruns, List.concat_eq_append, addRun_concat]
      split
      · next hspec =>
        simp [List.flatMap_append, Run.glyphs, Run.pen, Pen.write_append, hlast, hspec]
      · simp [List.flatMap_append, Run.glyphs, Run.pen]

@[simp] theorem toText_push (t : StyledText) (text spec : Text) (style : Style) :
    (t.push text spec style).toText = t.toText ++ text := by
  cases text with
  | nil => simp
  | cons c text =>
    rw [push_cons, toText, toText]
    rcases List.eq_nil_or_concat t.runs with hruns | ⟨rs, last, hruns⟩
    · simp [hruns, addRun]
    · simp only [hruns, List.concat_eq_append, addRun_concat]
      split <;> simp [List.flatMap_append]

@[simp] theorem toText_plain (text : Text) : (plain text).toText = text := by
  rw [plain, toText_push]
  rfl

/-! ## Appending -/

theorem append_eq_foldl (t u : StyledText) :
    t ++ u = u.runs.foldl (fun t r => t.push r.text r.spec r.style) t := rfl

@[simp] theorem append_nil (t : StyledText) : t ++ ({} : StyledText) = t := rfl

/-- Without empty runs, appending adds the runs. -/
theorem Filled.append_eq {u : StyledText} (h : u.Filled) (t : StyledText) :
    t ++ u = ⟨u.runs.foldl (fun ts r => addRun r ts) t.runs⟩ := by
  rw [append_eq_foldl]
  obtain ⟨rs⟩ := u
  induction rs generalizing t with
  | nil => rfl
  | cons r rs ih =>
    simp only [List.foldl_cons]
    rw [push_run (h r List.mem_cons_self)]
    exact ih _ fun q hq => h q (List.mem_cons_of_mem r hq)

/-- Pushing at the end of an appended text is pushing at the end of the whole. -/
theorem Filled.append_push {u : StyledText} (h : u.Filled) (t : StyledText) (text spec : Text)
    (style : Style) : t ++ u.push text spec style = (t ++ u).push text spec style := by
  cases text with
  | nil => rfl
  | cons c text =>
    rw [(h.push (c :: text) spec style).append_eq, h.append_eq, push_cons, push_cons]
    exact congrArg StyledText.mk (foldl_addRun_addRun _ _ _)

@[simp] theorem toText_append (t u : StyledText) : (t ++ u).toText = t.toText ++ u.toText := by
  rw [append_eq_foldl]
  obtain ⟨rs⟩ := u
  induction rs generalizing t with
  | nil => simp [toText]
  | cons r rs ih => simp only [List.foldl_cons, ih, toText_push, List.append_assoc]; rfl

/-! ## Texts made of glyphs -/

theorem ofGlyphs_concat (gs : List Glyph) (g : Glyph) :
    ofGlyphs (gs ++ [g]) = Writer.add (ofGlyphs gs) g := by
  simp [ofGlyphs]

theorem canonical_ofGlyphs (gs : List Glyph) : (ofGlyphs gs).Canonical := by
  induction gs using List.reverseRecOn with
  | nil => exact canonical_nil
  | append_singleton gs g ih =>
    rw [ofGlyphs_concat]
    exact ih.push _ _ _

/-- Adding glyphs to a text is appending the text that they make. -/
theorem foldl_add (t : StyledText) (gs : List Glyph) :
    gs.foldl Writer.add t = t ++ ofGlyphs gs := by
  induction gs using List.reverseRecOn with
  | nil => rfl
  | append_singleton gs g ih =>
    rw [List.foldl_concat, ofGlyphs_concat, ih]
    exact ((canonical_ofGlyphs gs).filled.append_push _ _ _ _).symm

theorem ofGlyphs_append (gs hs : List Glyph) :
    ofGlyphs (gs ++ hs) = ofGlyphs gs ++ ofGlyphs hs := by
  rw [← foldl_add, ofGlyphs, List.foldl_append]
  rfl

theorem plain_eq_ofGlyphs (text : Text) : plain text = ofGlyphs (Pen.default.write text) :=
  push_eq_foldl_add {} text [] .default

@[simp] theorem toText_ofGlyphs (gs : List Glyph) : (ofGlyphs gs).toText = gs.map Glyph.char := by
  induction gs using List.reverseRecOn with
  | nil => rfl
  | append_singleton gs g ih =>
    rw [ofGlyphs_concat, Writer.add, toText_push, ih, List.map_append]
    rfl

theorem styledBy_ofGlyphs {styleOf : Text → Style} {gs : List Glyph}
    (h : ∀ g ∈ gs, g.pen.style = styleOf g.pen.spec) : (ofGlyphs gs).StyledBy styleOf := by
  induction gs using List.reverseRecOn with
  | nil => exact styledBy_nil styleOf
  | append_singleton gs g ih =>
    rw [ofGlyphs_concat, Writer.add, h g (by simp)]
    exact (ih fun g' hg' => h g' (by simp [hg'])).push _ _

/-- Where specs decide on styles, a text made of glyphs shows exactly these. -/
theorem glyphs_ofGlyphs {styleOf : Text → Style} {gs : List Glyph}
    (h : ∀ g ∈ gs, g.pen.style = styleOf g.pen.spec) : (ofGlyphs gs).glyphs = gs := by
  induction gs using List.reverseRecOn with
  | nil => rfl
  | append_singleton gs g ih =>
    have hgs : ∀ g' ∈ gs, g'.pen.style = styleOf g'.pen.spec := fun g' hg' => h g' (by simp [hg'])
    have hg : g.pen.style = styleOf g.pen.spec := h g (by simp)
    rw [ofGlyphs_concat, Writer.add, hg, glyphs_push (styledBy_ofGlyphs hgs), ih hgs, ← hg]
    rfl

/-- The glyphs of a run that cannot merge make this run again. -/
theorem foldl_add_glyphs {r : Run} (hr : r.text ≠ []) (t : StyledText) :
    r.glyphs.foldl Writer.add t = ⟨addRun r t.runs⟩ := by
  rw [Run.glyphs, Run.pen, ← push_eq_foldl_add, push_run hr]

/-- A text with maximal runs is made of its glyphs. -/
theorem Canonical.ofGlyphs_glyphs {t : StyledText} (h : t.Canonical) : ofGlyphs t.glyphs = t := by
  obtain ⟨rs⟩ := t
  induction rs using List.reverseRecOn with
  | nil => rfl
  | append_singleton rs r ih =>
    have hchain := List.isChain_append.mp h.specs_ne
    have hrs : ofGlyphs (glyphs ⟨rs⟩) = ⟨rs⟩ :=
      ih ⟨fun q hq => h.filled q (List.mem_append_left _ hq), hchain.1⟩
    have hglyphs : glyphs ⟨rs ++ [r]⟩ = glyphs ⟨rs⟩ ++ r.glyphs := by simp [glyphs]
    have hadd : addRun r rs = rs ++ [r] := by
      rcases List.eq_nil_or_concat rs with rfl | ⟨rs, last, rfl⟩
      · rfl
      · have hne : last.spec ≠ r.spec := hchain.2.2 last (by simp) r (by simp)
        rw [List.concat_eq_append, addRun_concat, if_neg hne, List.append_assoc]
        rfl
    have hfold := foldl_add_glyphs (h.filled r (by simp)) ⟨rs⟩
    rw [foldl_add] at hfold
    rw [hglyphs, ofGlyphs_append, hrs, hfold, hadd]

/-- Texts with maximal runs that show the same glyphs are equal. -/
theorem Canonical.ext {t u : StyledText} (ht : t.Canonical) (hu : u.Canonical)
    (h : t.glyphs = u.glyphs) : t = u := by
  rw [← ht.ofGlyphs_glyphs, h, hu.ofGlyphs_glyphs]

end StyledText

end LogLine
