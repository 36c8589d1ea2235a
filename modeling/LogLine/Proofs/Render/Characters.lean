-- SUMMARY: Which characters a plain line has: nothing is brought in, and nothing is filtered out.
import LogLine.Proofs.Layout.Column
import LogLine.Proofs.Markup.Characters
import LogLine.Proofs.Render.Decoding

/-!
# Characters of plain lines

A plain line has the characters of the settings' texts and of the values of its fields, and
otherwise spaces and characters that mean something in markup. So a line feed or an escape
character comes into it only from the event, the thread and the clock, where the settings
have none. From there it does come: what a column has room for is shown as it is, whatever
characters it has.
-/

namespace LogLine

/-! ## Messages -/

/-- The markup of a message has the characters of its text and of the parameter style. -/
theorem Message.within_fill {p : Char → Prop} (h : Markup.Syntax p) {style : Option Text}
    (hstyle : ∀ template ∈ style, Text.Within p template) {parts : List MessagePart}
    {args : List Text} (htext : Text.Within p (textOf parts args)) :
    Text.Within p (fill style parts args) := by
  have hargument (value : Text) (hvalue : Text.Within p value) :
      Text.Within p (argument style value) := by
    cases style with
    | none => exact h.escape hvalue
    | some template => exact (h.escape hvalue).replace (hstyle template rfl)
  fun_induction fill style parts args with
  | case1 args => exact List.forall_mem_nil p
  | case2 args literal parts ih =>
    obtain ⟨hliteral, hrest⟩ := Text.within_append.mp htext
    exact Text.within_append.mpr ⟨h.escape hliteral, ih hrest⟩
  | case3 parts ih =>
    obtain ⟨hbraces, hrest⟩ := Text.within_append.mp htext
    exact Text.within_append.mpr ⟨h.escape hbraces, ih hrest⟩
  | case4 parts arg args ih =>
    obtain ⟨harg, hrest⟩ := Text.within_append.mp htext
    exact Text.within_append.mpr ⟨hargument arg harg, ih hrest⟩

/-! ## Columns -/

namespace Field

variable {p : Char → Prop} {e : Expression} {f : Field} {value : Text} {level : Option Text}

/-- The decoration around a fitted value has the characters of the templates, of the ellipsis and of
    the value. -/
theorem within_decorated (h : Markup.Syntax p) (hellipsis : Text.Within p e.ellipsis)
    (hstyle : Text.Within p f.style) (hdecoration : Text.Within p f.decoration)
    (hlevel : ∀ template ∈ level, Text.Within p template) (hvalue : Text.Within p value)
    (allocated : Nat) : Text.Within p (f.decorated e value allocated level) := by
  have htemplate : Text.Within p (f.template level) := by
    cases level with
    | none => exact hstyle
    | some template => exact hstyle.replace (hlevel template rfl)
  have hspace : Glyph.Within p ⟨' ', .default⟩ := ⟨h.space, List.forall_mem_nil p⟩
  have hmarkup : Text.Within p
      (pad e.hyphen f.align (f.room e allocated) (f.fit e value allocated level)).toMarkup := by
    rw [fit, Expression.evaluate_eq, pad_ofGlyphs]
    exact StyledText.within_toMarkup h
      (Alignment.forall_mem_padded (p := fun g : Glyph => g.pen.Valid e.resolver)
        (Pen.valid_default e.resolver) (e.valid_of_mem_limited _ _) f.align _)
      (Alignment.forall_mem_padded hspace
        (e.within_of_mem_limited h hellipsis (hvalue.replace htemplate) _) f.align _)
  unfold decorated
  exact hmarkup.replace hdecoration

theorem within_render (h : Markup.Syntax p) (hellipsis : Text.Within p e.ellipsis)
    (hstyle : Text.Within p f.style) (hdecoration : Text.Within p f.decoration)
    (hlevel : ∀ template ∈ level, Text.Within p template) (hvalue : Text.Within p value)
    (gap allocated : Nat) (first : Bool) {line : StyledText} (hline : Text.Within p line.toText) :
    Text.Within p (f.render e gap value allocated level first line).toText := by
  have hgap : Text.Within p (if first then line else
      line.push (List.replicate gap ' ') [] .default).toText := by
    cases first with
    | true => exact hline
    | false =>
      rw [if_neg Bool.false_ne_true, StyledText.toText_push]
      exact Text.within_append.mpr ⟨hline, .replicate h.space gap⟩
  have hshown : ∀ g ∈ e.unlimited.shown (f.decorated e value allocated level), g.Within p :=
    Expression.within_of_mem_shown (e := e.unlimited) h hellipsis
      (within_decorated h hellipsis hstyle hdecoration hlevel hvalue allocated)
  rw [render, Expression.evaluateInto_eq, StyledText.toText_append, StyledText.toText_ofGlyphs]
  refine Text.within_append.mpr ⟨hgap, fun c hc => ?_⟩
  obtain ⟨g, hg, rfl⟩ := List.mem_map.mp hc
  exact (hshown g hg).char

end Field

/-! ## Lines -/

/-- The texts of settings that lines show have only characters with a property. -/
structure Settings.Within (p : Char → Prop) (s : Settings) : Prop where
  styles : ∀ f ∈ s.layout, Text.Within p f.style
  decorations : ∀ f ∈ s.layout, Text.Within p f.decoration
  levels : ∀ l, Text.Within p (s.levels l).text ∧ Text.Within p (s.levels l).style
  arguments : ∀ template ∈ s.parameterStyle, Text.Within p template
  ellipsis : Text.Within p s.ellipsis

theorem Settings.Within.mono {p q : Char → Prop} {s : Settings} (h : s.Within p)
    (hpq : ∀ c, p c → q c) : s.Within q where
  styles := fun f hf c hc => hpq c (h.styles f hf c hc)
  decorations := fun f hf c hc => hpq c (h.decorations f hf c hc)
  levels := fun l => ⟨fun c hc => hpq c ((h.levels l).1 c hc),
    fun c hc => hpq c ((h.levels l).2 c hc)⟩
  arguments := fun template ht c hc => hpq c (h.arguments template ht c hc)
  ellipsis := fun c hc => hpq c (h.ellipsis c hc)

namespace Renderer

variable {r : Renderer} {scene : Scene} {e : Event} {n : ThreadNumbers} {p : Char → Prop}

theorem within_markup? (hformatter : r.formatter = .braces) (h : Markup.Syntax p)
    (hsettings : r.settings.Within p) {kind : FieldKind} (hvalue : kind ≠ .level →
      Text.Within p (scene.fieldText r.settings.date (n.number scene.thread) e kind)) {m : Text}
    (hm : r.markup? scene e n kind = some m) : Text.Within p m := by
  cases kind with
  | level =>
    cases hm
    exact (hsettings.levels e.level).1
  | message =>
    cases (markup?_message hformatter).symm.trans hm
    exact Message.within_fill h hsettings.arguments (hvalue nofun)
  | _ =>
    cases hm
    exact h.escape (hvalue nofun)

theorem within_columns (h : Markup.Syntax p) (hsettings : r.settings.Within p) (plan : Plan)
    {columns : List (Field × Text)} (hcolumns : ∀ column ∈ columns,
      column.1 ∈ r.settings.layout ∧ Text.Within p column.2)
    (first : Bool) {line : StyledText} (hline : Text.Within p line.toText) :
    Text.Within p (r.columns plan e first columns line).toText := by
  induction columns generalizing first line with
  | nil => exact hline
  | cons column columns ih =>
    obtain ⟨hcolumn, hrest⟩ := List.forall_mem_cons.mp hcolumns
    have hlevel : ∀ template ∈ r.levelTemplate e column.1, Text.Within p template := by
      intro template htemplate
      rw [eq_style_of_mem_levelTemplate htemplate]
      exact (hsettings.levels e.level).2
    exact ih hrest false (Field.within_render h hsettings.ellipsis
      (hsettings.styles column.1 hcolumn.1) (hsettings.decorations column.1 hcolumn.1) hlevel
      hcolumn.2 _ _ first hline)

end Renderer

theorem Text.mem_join_iff {c : Char} {sep : Text} (h : c ∉ sep) (ts : List Text) :
    c ∈ join sep ts ↔ ∃ t ∈ ts, c ∈ t := by
  cases ts with
  | nil => simp [join]
  | cons t ts => simp [join_cons, h]

theorem Field.mem_fitText_iff {c : Char} (h : c ≠ ' ') (e : Expression) (f : Field) (width : Nat)
    (t : Text) : c ∈ f.fitText e width t ↔ c ∈ e.cutText width t := by
  have hspaces (n : Nat) : c ∉ List.replicate n ' ' := fun hc => h (List.eq_of_mem_replicate hc)
  unfold fitText Alignment.padText
  cases f.align <;> simp only [List.mem_append, hspaces, or_false, false_or]

namespace Renderer

variable {r : Renderer} {scene : Scene} {e : Event} {s : RenderState}

/-- However it was used before, a renderer for plain lines gives a line for every event on a thread
    that is not rendering. A property of all characters that mean something in markup, of those of
    the settings' texts and of those of the values is one of all characters of the line. Where
    templates only colour, a character other than the space is in the line exactly if it is in a
    value that was cut to the cells of its column. -/
theorem line_characters {b : Builder} (hbuild : b.build = .ok r.settings)
    (hformat : r.settings.format = .tty) (hmode : r.settings.mode = .plain)
    (hformatter : r.formatter = .braces) (hnew : s.cache = {}) (steps : List Step)
    (hidle : (r.after s steps).guards.isActive scene.thread = false) :
    let value (f : Field) := scene.fieldText r.settings.date
      ((r.after s steps).numbers.number scene.thread) e f.kind
    ∃ (cells : Field → Nat) (l : Line),
      (∀ f ∈ r.settings.layout, (Plan.ofFields r.settings.layout (r.width scene.terminal)
        r.settings.gap).get? f.name = some (cells f)) ∧
      (r.render scene e (r.after s steps)).1 = .line l ∧
      (∀ p : Char → Prop, Markup.Syntax p → r.settings.Within p →
        (∀ f ∈ r.settings.layout, f.kind ≠ .level → Text.Within p (value f)) →
        Text.Within p l.text) ∧
      (r.settings.OnlyColours → ∀ c ≠ ' ', c ∈ l.text ↔ ∃ f ∈ r.settings.layout,
        c ∈ (r.settings.expression r.hyphen).cutText (cells f)
          (r.shownText e f.kind (value f))) := by
  intro value
  have hnodup := Builder.nodup_of_build hbuild
  obtain ⟨_, -, hrender⟩ := render_of_not_isActive (r := r) hidle e
  choose! cells hcells using fun f (hf : f ∈ r.settings.layout) =>
    Plan.exists_get?_ofFields hnodup hf (r.width scene.terminal) r.settings.gap
  obtain ⟨markup, hmarkup, hline⟩ := exists_outcome_tty scene (ends_braces (e := e) hformatter)
    hformat (r.plan scene.terminal (r.after s steps)) (r.after s steps).numbers
  rw [plan_after hnew, hmode] at hline
  refine ⟨cells, _, hcells, by rw [hrender, plan_after hnew, hline], ?_, ?_⟩
  · intro p hsyntax hsettings hvalues
    refine within_columns hsyntax hsettings _ (fun column hcolumn => ?_) true (List.forall_mem_nil p)
    rw [← List.map_prod_left_eq_zip] at hcolumn
    obtain ⟨f, hf, rfl⟩ := List.mem_map.mp hcolumn
    exact ⟨hf, within_markup? hformatter hsyntax hsettings (hvalues f hf) (hmarkup f)⟩
  · intro hcolours c hc
    have hpos : ∀ f ∈ r.settings.layout, 1 ≤ cells f :=
      fun f hf => Plan.one_le_of_get?_ofFields (hcells f hf)
    have hshows (f : Field) (resolver : Resolver) :
        Markup.Shows resolver (markup f) (r.shownText e f.kind (value f)) := by
      obtain ⟨m, hm, hshown⟩ := exists_markup? hformatter hcolours
        (plain?_eq (e := e) hformatter (r.after s steps).numbers f.kind)
      cases (hmarkup f).symm.trans hm
      exact hshown resolver
    have hgap : c ∉ List.replicate r.settings.gap ' ' :=
      fun hmem => hc (List.eq_of_mem_replicate hmem)
    have hplain : OutputMode.plain.usesAnsi scene.terminal = false := rfl
    rw [hplain, text_ttyLine hcolours hcells hpos hshows, Text.mem_join_iff hgap]
    simp only [List.mem_map, exists_exists_and_eq_and, Field.mem_fitText_iff hc]

/-! A message that starts a new line, and one that also colours it. -/

def bare : Builder := { mode := .plain, width := 12, layout := ["message".toList] }

theorem bare_within : bare.assemble.Within fun c => c ≠ '\n' ∧ c ≠ '\x1b' where
  styles := by decide +kernel
  decorations := by decide +kernel
  levels := fun l => by cases l <;> decide +kernel
  arguments := by
    intro template htemplate
    cases htemplate
    decide +kernel
  ellipsis := by decide +kernel

def broken : Event := { level := .info, logger := "app".toList, pattern := "a\nb".toList }

theorem line_characters_broken :
    ∃ l : Line, (Renderer.render ⟨bare.assemble, .braces, .latin1⟩ (sceneOf 80) broken {}).1 =
        .line l ∧ '\n' ∈ l.text ∧ '\x1b' ∉ l.text := by
  obtain ⟨cells, l, hcells, hline, hwithin, hshown⟩ :=
    @line_characters ⟨bare.assemble, .braces, .latin1⟩ (sceneOf 80) broken {} bare rfl rfl rfl rfl
      rfl [] rfl
  let field : Field := { name := "message".toList }
  have hfield : field ∈ bare.assemble.layout := List.mem_singleton_self field
  have hcolours : bare.assemble.OnlyColours := Builder.onlyColours_assemble rfl rfl rfl
  refine ⟨l, hline, (hshown hcolours '\n' (by decide)).mpr ⟨field, hfield, ?_⟩, fun hmem => ?_⟩
  · have hplan : (Plan.ofFields bare.assemble.layout 12 1).get? field.name = some 12 := by
      decide +kernel
    rw [← Option.some.inj (hplan.symm.trans (hcells field hfield))]
    decide +kernel
  · have hsyntax : Markup.Syntax (· ≠ '\x1b') := by constructor <;> decide
    refine hwithin _ hsyntax (bare_within.mono fun c hc => hc.2) (fun f hf _ => ?_) '\x1b' hmem rfl
    cases List.mem_singleton.mp hf
    decide +kernel

def forging : Event :=
  { level := .info, logger := "app".toList, pattern := "\n\x1b[31m\x7b\x7d".toList
    args := ["ERROR".toList] }

/-- Settings without line feeds and escape characters may be built whose plain lines have both. -/
theorem exists_forged_line :
    bare.build = .ok bare.assemble ∧ bare.format = .tty ∧ bare.mode = .plain ∧
      bare.assemble.Within (fun c => c ≠ '\n' ∧ c ≠ '\x1b') ∧
      ∃ l : Line, (Renderer.render ⟨bare.assemble, .braces, .latin1⟩ (sceneOf 80) forging {}).1 =
        .line l ∧ '\n' ∈ l.text ∧ '\x1b' ∈ l.text := by
  refine ⟨rfl, rfl, rfl, bare_within, ⟨"\n\x1b[31mERROR   ".toList, none⟩, ?_, ?_, ?_⟩
  · decide +kernel
  · decide
  · decide

end Renderer

end LogLine
