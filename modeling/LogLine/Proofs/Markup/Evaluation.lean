-- SUMMARY: What an evaluation shows: the glyphs of the markup, cut to the limit, in maximal runs.
import LogLine.Proofs.Markup.Reading

/-!
# Evaluation

Evaluating markup shows its glyphs in maximal runs. Under a limit it shows them
cut: all of them if they are no more than the limit, and otherwise as many as
leave room for the ellipsis, which is written with the pen of the first glyph
that is too much. The writer reaches this without knowing how much comes: it
holds the glyphs back that may have to go.
-/

namespace LogLine

open StyledText (ofGlyphs)

namespace Expression

/-! ## Cutting -/

/-- The number of characters that stay when there are more than the limit: those that leave room
    for the ellipsis. An empty ellipsis needs no room. -/
def kept (e : Expression) (limit : Nat) : Nat :=
  if e.ellipsis = [] then limit else limit - e.ellipsis.width e.hyphen

/-- Glyphs cut to a limit. -/
def cut (e : Expression) (limit : Nat) (gs : List Glyph) : List Glyph :=
  match gs[limit]? with
  | none => gs
  | some first => gs.take (e.kept limit) ++ first.pen.write e.ellipsis

/-- The glyphs that an evaluation shows. -/
def shown (e : Expression) (m : Text) : List Glyph :=
  match e.limit with
  | none => Markup.glyphs e.resolver m
  | some limit => e.cut limit (Markup.glyphs e.resolver m)

theorem kept_le (e : Expression) (limit : Nat) : e.kept limit ≤ limit := by
  unfold kept
  split
  · exact Nat.le_refl limit
  · exact Nat.sub_le limit _

theorem cut_of_le {gs : List Glyph} {limit : Nat} (h : gs.length ≤ limit) (e : Expression) :
    e.cut limit gs = gs := by
  rw [cut, List.getElem?_eq_none h]

theorem cut_of_lt {gs : List Glyph} {limit : Nat} (h : limit < gs.length) (e : Expression) :
    e.cut limit gs = gs.take (e.kept limit) ++ gs[limit].pen.write e.ellipsis := by
  rw [cut, List.getElem?_eq_getElem h]

/-- Cutting brings in no pens. -/
theorem exists_pen_of_mem_cut {e : Expression} {limit : Nat} {gs : List Glyph} {g : Glyph}
    (h : g ∈ e.cut limit gs) : ∃ g' ∈ gs, g'.pen = g.pen := by
  rcases Nat.lt_or_ge limit gs.length with hlen | hlen
  · rw [cut_of_lt hlen] at h
    rcases List.mem_append.mp h with h | h
    · exact ⟨g, List.mem_of_mem_take h, rfl⟩
    · exact ⟨_, List.getElem_mem _, (Pen.pen_of_mem_write h).symm⟩
  · exact ⟨g, cut_of_le hlen e ▸ h, rfl⟩

theorem valid_of_mem_shown {e : Expression} {m : Text} {g : Glyph} (h : g ∈ e.shown m) :
    g.pen.Valid e.resolver := by
  unfold shown at h
  split at h
  · exact Markup.valid_of_mem_glyphs h
  · obtain ⟨g', hg', hpen⟩ := exists_pen_of_mem_cut h
    exact hpen ▸ Markup.valid_of_mem_glyphs hg'

theorem valid_of_mem_limited (e : Expression) (limit : Nat) (m : Text) :
    ∀ g ∈ (e.limited limit).shown m, g.pen.Valid e.resolver :=
  fun _ hg => valid_of_mem_shown (e := e.limited limit) hg

end Expression

/-! ## Writing -/

namespace Writer

variable {e : Expression}

/-- Below the limit, a character is held back exactly if it does not stay in any case. -/
theorem holdsBack_iff {limit index : Nat} (h : index < limit) :
    holdsBack e limit index = true ↔ e.kept limit ≤ index := by
  cases hellipsis : e.ellipsis with
  | nil => simp [holdsBack, Expression.kept, hellipsis, h]
  | cons c ellipsis => simp [holdsBack, Expression.kept, hellipsis]

theorem foldl_write_unlimited (h : e.limit = none) (gs : List Glyph) (out : StyledText) :
    gs.foldl (write e) { out } = { out := gs.foldl add out, count := gs.length } := by
  induction gs using List.reverseRecOn with
  | nil => rfl
  | append_singleton gs g ih =>
    rw [List.foldl_concat, List.foldl_concat, ih, List.length_append]
    simp [write, h]

/-- As long as the limit is not passed, what stays in any case has been written and the rest is
    held back. -/
theorem foldl_write_of_le {limit : Nat} (h : e.limit = some limit) {gs : List Glyph}
    (hlen : gs.length ≤ limit) (out : StyledText) :
    gs.foldl (write e) { out } =
      { out := (gs.take (e.kept limit)).foldl add out
        held := ofGlyphs (gs.drop (e.kept limit))
        count := gs.length } := by
  induction gs using List.reverseRecOn with
  | nil => simp [ofGlyphs]
  | append_singleton gs g ih =>
    rw [List.length_append] at hlen
    have hlt : gs.length < limit := hlen
    rw [List.foldl_concat, ih (Nat.le_of_lt hlt)]
    cases hheld : holdsBack e limit gs.length with
    | true =>
      have hkept := (holdsBack_iff hlt).mp hheld
      simp [write, h, Nat.ne_of_lt hlt, hheld, List.take_append_of_le_length hkept,
        List.drop_append_of_le_length hkept, StyledText.ofGlyphs_concat]
    | false =>
      have hfits : gs.length + 1 ≤ e.kept limit := by
        refine Nat.lt_of_not_le fun hkept => ?_
        rw [(holdsBack_iff hlt).mpr hkept] at hheld
        cases hheld
      simp [write, h, Nat.ne_of_lt hlt, hheld, List.take_of_length_le, hfits,
        Nat.le_of_succ_le hfits, List.drop_eq_nil_of_le, ofGlyphs]

/-- Nothing is taken any more once the limit was passed. -/
theorem foldl_write_of_stopped {w : Writer} (h : w.stopped = true) (gs : List Glyph) :
    gs.foldl (write e) w = w := by
  induction gs with
  | nil => rfl
  | cons g gs ih => rw [List.foldl_cons, write, if_pos h, ih]

/-- The glyph that passes the limit leaves its place to the ellipsis. -/
theorem foldl_write_of_lt {limit : Nat} (h : e.limit = some limit) {gs : List Glyph}
    (hlen : limit < gs.length) (out : StyledText) :
    gs.foldl (write e) { out } =
      { out := (e.cut limit gs).foldl add out, count := limit, stopped := true } := by
  have hsplit : gs = gs.take limit ++ gs[limit] :: gs.drop (limit + 1) := by
    rw [← List.drop_eq_getElem_cons hlen, List.take_append_drop]
  have htake : (gs.take limit).length = limit := List.length_take_of_le (Nat.le_of_lt hlen)
  have hkept : (gs.take limit).take (e.kept limit) = gs.take (e.kept limit) := by
    rw [List.take_take, Nat.min_eq_left (e.kept_le limit)]
  -- Before the glyph that passes the limit nothing was lost, and after it nothing is taken.
  have hstep : (gs.take limit ++ gs[limit] :: gs.drop (limit + 1)).foldl (write e) { out } =
      { out := (e.cut limit gs).foldl add out, count := limit, stopped := true } := by
    rw [List.foldl_append, List.foldl_cons, foldl_write_of_le h (Nat.le_of_eq htake), hkept,
      Expression.cut_of_lt hlen, List.foldl_append]
    have hwrite : write e
        { out := (gs.take (e.kept limit)).foldl add out
          held := ofGlyphs ((gs.take limit).drop (e.kept limit))
          count := (gs.take limit).length } gs[limit] =
        { out := (gs[limit].pen.write e.ellipsis).foldl add
            ((gs.take (e.kept limit)).foldl add out)
          count := limit
          stopped := true } := by
      simp [write, h, htake, StyledText.push_eq_foldl_add]
    rw [hwrite, foldl_write_of_stopped rfl]
  rw [← hsplit] at hstep
  exact hstep

/-- Writing glyphs one after another shows them cut. -/
theorem finish_foldl_write {limit : Nat} (h : e.limit = some limit) (gs : List Glyph)
    (out : StyledText) :
    (gs.foldl (write e) { out }).finish = out ++ ofGlyphs (e.cut limit gs) := by
  rw [← StyledText.foldl_add]
  rcases Nat.lt_or_ge limit gs.length with hlen | hlen
  · rw [foldl_write_of_lt h hlen]
    rfl
  · rw [foldl_write_of_le h hlen, Expression.cut_of_le hlen, finish, ← StyledText.foldl_add,
      ← List.foldl_append, List.take_append_drop]

end Writer

/-! ## Evaluating -/

namespace Expression

variable (e : Expression)

/-- An evaluation at the end of a text appends the text of the glyphs that it shows. -/
theorem evaluateInto_eq (out : StyledText) (m : Text) :
    e.evaluateInto out m = out ++ ofGlyphs (e.shown m) := by
  cases h : e.limit with
  | none =>
    simp only [evaluateInto, shown, h, Writer.foldl_write_unlimited h]
    exact StyledText.foldl_add out _
  | some limit =>
    simp only [evaluateInto, shown, h]
    exact Writer.finish_foldl_write h _ out

theorem evaluate_eq (m : Text) : e.evaluate m = ofGlyphs (e.shown m) := by
  rw [evaluate, evaluateInto_eq, ← StyledText.foldl_add]
  rfl

theorem canonical_evaluate (m : Text) : (e.evaluate m).Canonical := by
  rw [evaluate_eq]
  exact StyledText.canonical_ofGlyphs _

theorem styleAt_of_mem_shown {m : Text} :
    ∀ g ∈ e.shown m, g.pen.style = e.resolver.styleAt g.pen.spec :=
  fun _ hg => (valid_of_mem_shown hg).style_eq

@[simp] theorem glyphs_evaluate (m : Text) : (e.evaluate m).glyphs = e.shown m := by
  rw [evaluate_eq, StyledText.glyphs_ofGlyphs e.styleAt_of_mem_shown]

@[simp] theorem toText_evaluate (m : Text) :
    (e.evaluate m).toText = (e.shown m).map Glyph.char := by
  rw [evaluate_eq, StyledText.toText_ofGlyphs]

theorem shown_unlimited (m : Text) : e.unlimited.shown m = Markup.glyphs e.resolver m := rfl

/-- Markup that leaves the reader as it was evaluates to what it shows outside every scope. -/
theorem evaluate_of_reads {m : Text} {f : Pen → List Glyph} (h : Markup.Reads e.resolver m f) :
    e.unlimited.evaluate m = ofGlyphs (f .default) := by
  rw [evaluate_eq, shown_unlimited, h.glyphs_eq]

theorem shown_limited {limit : Nat} (h : 1 ≤ limit) (m : Text) :
    (e.limited limit).shown m = e.cut limit (e.unlimited.shown m) := by
  have hlimit : (e.limited limit).limit = some limit := by
    simp [limited, Nat.ne_of_gt h]
  simp only [shown, hlimit]
  rfl

/-- Under a limit, an evaluation agrees with the one without: if that shows more characters than
    the limit, the first ones that leave room stay, and the ellipsis follows with the pen of the
    first character that is too much. -/
theorem evaluate_limited {limit : Nat} (h : 1 ≤ limit) (m : Text) :
    ((e.unlimited.evaluate m).glyphs.length ≤ limit →
      (e.limited limit).evaluate m = e.unlimited.evaluate m) ∧
    ∀ hlen : limit < (e.unlimited.evaluate m).glyphs.length,
      ((e.limited limit).evaluate m).glyphs =
        (e.unlimited.evaluate m).glyphs.take
            (if e.ellipsis = [] then limit else limit - e.ellipsis.width e.hyphen) ++
          ((e.unlimited.evaluate m).glyphs[limit]).pen.write e.ellipsis := by
  simp only [glyphs_evaluate, shown_limited e h]
  refine ⟨fun hlen => ?_, fun hlen => cut_of_lt hlen e⟩
  rw [evaluate_eq, evaluate_eq, shown_limited e h, cut_of_le hlen]

theorem evaluate_limited_between_scopes :
    ((({} : Expression).limited 4).evaluate "ab@\x7bu cd@\x7bv e\x7d\x7d".toList).glyphs =
        Pen.default.write ['a', 'b'] ++ (Pen.within .none [['u'], ['v']]).write ['.', '.'] ∧
      (({} : Expression).limited 5).evaluate "ab@\x7bu cd@\x7bv e\x7d\x7d".toList =
        ({} : Expression).unlimited.evaluate "ab@\x7bu cd@\x7bv e\x7d\x7d".toList :=
  ⟨((evaluate_limited {} (by decide) _).2 (by decide)).trans (by decide +kernel),
    (evaluate_limited {} (by decide) _).1 (by decide)⟩

end Expression

end LogLine
