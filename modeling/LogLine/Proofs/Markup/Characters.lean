-- SUMMARY: The characters that evaluating markup shows, and where they come from.
import LogLine.Proofs.Markup.RoundTrip

/-!
# Characters of markup

Evaluating markup brings in no characters but those of the ellipsis: what is shown, and the
specs that it is shown under, are made of the characters of the markup, of those that mean
something in markup, and of the comma between the names of a spec. Writing styled text back
and putting a value into a template bring in nothing else either.
-/

namespace LogLine

/-! ## Texts -/

namespace Text

/-- A text has only characters with a property. -/
def Within (p : Char → Prop) (t : Text) : Prop := ∀ c ∈ t, p c

variable {p : Char → Prop} {t u : Text}

instance [DecidablePred p] : Decidable (Within p t) := List.decidableBAll p t

theorem within_append : Within p (t ++ u) ↔ Within p t ∧ Within p u := List.forall_mem_append

theorem Within.replicate {c : Char} (hc : p c) (n : Nat) : Within p (List.replicate n c) := by
  intro d hd
  rw [List.eq_of_mem_replicate hd]
  exact hc

/-- Replacing brings in the characters of the new text only. -/
theorem Within.replace {old new : Text} (hnew : Within p new) (ht : Within p t) :
    Within p (replace old new t) := by
  have hfrom (skip : Nat) : Within p (replaceFrom old new skip t) := by
    fun_induction replaceFrom old new skip t with
    | case1 skip => exact List.forall_mem_nil p
    | case2 skip c rest ih => exact ih (List.forall_mem_of_forall_mem_cons ht)
    | case3 c rest _ ih =>
      exact within_append.mpr ⟨hnew, ih (List.forall_mem_of_forall_mem_cons ht)⟩
    | case4 c rest _ ih =>
      obtain ⟨hc, hrest⟩ := List.forall_mem_cons.mp ht
      exact List.forall_mem_cons.mpr ⟨hc, ih hrest⟩
  exact hfrom 0

end Text

/-! ## Markup -/

namespace Markup

/-- A property of the characters that mean something in markup, inside a name or outside. -/
structure Syntax (p : Char → Prop) : Prop where
  slash : p '\\'
  at_sign : p '@'
  open_brace : p '\x7b'
  close_brace : p '\x7d'
  space : p ' '
  comma : p ','

variable {p : Char → Prop} {t : Text} {resolver : Resolver}

theorem Syntax.escape (h : Syntax p) (ht : Text.Within p t) : Text.Within p (Markup.escape t) := by
  intro d hd
  obtain ⟨c, hc, hd⟩ := List.mem_flatMap.mp hd
  split at hd
  · rcases List.mem_cons.mp hd with rfl | hd
    · exact h.slash
    · exact List.mem_singleton.mp hd ▸ ht c hc
  · exact List.mem_singleton.mp hd ▸ ht c hc

theorem Syntax.scope (h : Syntax p) {name body : Text} (hname : Text.Within p name)
    (hbody : Text.Within p body) : Text.Within p (Markup.scope name body) := by
  simp only [Markup.scope, Text.Within, List.forall_mem_append, List.forall_mem_cons,
    List.cons_append]
  exact ⟨h.at_sign, h.open_brace, ⟨hname, h.space, hbody⟩, h.close_brace, List.forall_mem_nil p⟩

/-- Reading keeps the characters of names and specs. -/
theorem Syntax.kept (h : Syntax p) (resolver : Resolver) :
    Kept resolver p (Text.Within p) (fun pen => Text.Within p pen.spec) where
  slash := h.slash
  at_sign := h.at_sign
  start := List.forall_mem_nil p
  name_nil := List.forall_mem_nil p
  name_cons := fun hread hc _ _ => List.forall_mem_cons.mpr ⟨hc, hread⟩
  inside := by
    intro read outer hread _ houter
    have hname : Text.Within p read.reverse := fun c hc => hread c (List.mem_reverse.mp hc)
    simp only [Pen.inside]
    split
    · exact hname
    · exact Text.within_append.mpr ⟨houter, List.forall_mem_cons.mpr ⟨h.comma, hname⟩⟩

end Markup

/-! ## Glyphs -/

/-- The character of a glyph has a property, and so have those of its spec. -/
structure Glyph.Within (p : Char → Prop) (g : Glyph) : Prop where
  char : p g.char
  spec : Text.Within p g.pen.spec

section

variable {p : Char → Prop} {e : Expression} {m : Text}

theorem Expression.within_of_mem_shown (h : Markup.Syntax p) (hellipsis : Text.Within p e.ellipsis)
    (hm : Text.Within p m) : ∀ g ∈ e.shown m, g.Within p := by
  have hglyphs : ∀ g ∈ Markup.glyphs e.resolver m, g.Within p := by
    intro g hg
    obtain ⟨hchar, hspec⟩ := (h.kept e.resolver).glyphs hm g hg
    exact ⟨hchar, hspec⟩
  intro g hg
  unfold shown at hg
  split at hg
  · exact hglyphs g hg
  · next limit _ =>
    rcases Nat.lt_or_ge limit (Markup.glyphs e.resolver m).length with hlen | hlen
    · rw [cut_of_lt hlen] at hg
      rcases List.mem_append.mp hg with hg | hg
      · exact hglyphs g (List.mem_of_mem_take hg)
      · obtain ⟨c, hc, rfl⟩ := List.mem_map.mp hg
        exact ⟨hellipsis c hc, (hglyphs _ (List.getElem_mem hlen)).spec⟩
    · rw [cut_of_le hlen] at hg
      exact hglyphs g hg

theorem Expression.within_of_mem_limited (h : Markup.Syntax p)
    (hellipsis : Text.Within p e.ellipsis) (hm : Text.Within p m) (limit : Nat) :
    ∀ g ∈ (e.limited limit).shown m, g.Within p :=
  within_of_mem_shown (e := e.limited limit) h hellipsis hm

/-- Glyphs that are written back as markup bring in nothing but what means something there. -/
theorem StyledText.within_toMarkup (h : Markup.Syntax p) {resolver : Resolver} {gs : List Glyph}
    (hvalid : ∀ g ∈ gs, g.pen.Valid resolver) (hgs : ∀ g ∈ gs, g.Within p) :
    Text.Within p (ofGlyphs gs).toMarkup := by
  have hglyphs : (ofGlyphs gs).glyphs = gs := glyphs_ofGlyphs fun g hg => (hvalid g hg).style_eq
  intro c hc
  obtain ⟨r, hr, hc⟩ := List.mem_flatMap.mp hc
  have hrun (g : Glyph) (hg : g ∈ r.glyphs) : g.Within p :=
    hgs g (hglyphs ▸ List.mem_flatMap.mpr ⟨r, hr, hg⟩)
  have htext : Text.Within p r.text :=
    fun d hd => (hrun ⟨d, r.pen⟩ (List.mem_map_of_mem hd)).char
  have hspec : Text.Within p r.spec := by
    obtain ⟨d, rest, hrest⟩ := List.exists_cons_of_ne_nil ((canonical_ofGlyphs gs).filled r hr)
    have hd : d ∈ r.text := hrest ▸ List.mem_cons_self
    exact (hrun ⟨d, r.pen⟩ (List.mem_map_of_mem hd)).spec
  unfold Run.toMarkup at hc
  split at hc
  · exact h.escape htext c hc
  · exact h.scope hspec (h.escape htext) c hc

end

end LogLine
