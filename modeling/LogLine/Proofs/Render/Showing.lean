-- SUMMARY: A line for a terminal shows the values of the JSON line, cut and padded.
import LogLine.Proofs.Config.Building
import LogLine.Proofs.Event.Message
import LogLine.Proofs.Layout.Fitted
import LogLine.Proofs.Layout.Widths
import LogLine.Proofs.Render.Reuse
import LogLine.Proofs.Text.Parts

/-!
# Lines for terminals and JSON lines

Where templates only colour, a line for a terminal shows the values that the JSON
line has for the same event, whatever characters they are made of. Each of them is
cut and padded to the cells of its column.
-/

namespace LogLine

open Markup (IsNest Shows)

/-! ## Settings that only colour -/

/-- Settings whose templates add nothing to the text of a line. The templates of levels and of
    arguments are scopes around their placeholders, and no character of a level's text means
    anything in markup. -/
structure Settings.OnlyColours (s : Settings) : Prop where
  fields : ∀ f ∈ s.layout, f.Unchanged
  levels : ∀ l, IsNest "text".toList (s.levels l).style
  arguments : ∀ template ∈ s.parameterStyle, IsNest "arg".toList template
  texts : ∀ l, ∀ c ∈ (s.levels l).text, Markup.isSpecial c = false

theorem LevelStyle.isNest_default (l : Level) : IsNest "text".toList (default l).style := by
  cases l with
  | error => exact ⟨["fg:red,bold".toList], by decide, by decide⟩
  | warn => exact ⟨["fg:yellow,bold".toList], by decide, by decide⟩
  | info => exact ⟨["fg:blue".toList], by decide, by decide⟩
  | debug => exact ⟨["fg:cyan".toList], by decide, by decide⟩
  | trace => exact ⟨["faint".toList], by decide, by decide⟩

theorem LevelStyle.not_special_default (l : Level) :
    ∀ c ∈ (default l).text, Markup.isSpecial c = false := by
  have hall : (default l).text.all (fun c => !Markup.isSpecial c) = true := by
    cases l <;> decide
  simpa only [List.all_eq_true, Bool.not_eq_true'] using hall

theorem Fields.unchanged_default : ∀ f ∈ default, f.Unchanged := by
  have hfields : ∀ f ∈ default, f.style = f.placeholder ∧ f.decoration = f.placeholder := by
    decide
  exact fun f hf => ⟨(hfields f hf).1, (hfields f hf).2⟩

/-- The settings that a builder starts from only colour, whatever the layout is. -/
theorem Builder.onlyColours_assemble {b : Builder} (hfields : b.fields = .default)
    (hlevels : b.levels = .default)
    (harguments : b.parameterStyle = ({} : Options).parameterStyle) :
    b.assemble.OnlyColours where
  fields := by
    intro f hf
    have hfield : b.fields.get? f.name = some f := (Fields.of_mem_pick hf).2
    exact Fields.unchanged_default f (hfields ▸ List.mem_of_find?_eq_some hfield)
  levels := fun l => hlevels ▸ LevelStyle.isNest_default l
  arguments := by
    intro template htemplate
    have hdefault : template ∈ ({} : Options).parameterStyle := harguments ▸ htemplate
    cases hdefault
    exact ⟨["bold".toList], by decide, by decide⟩
  texts := fun l => hlevels ▸ LevelStyle.not_special_default l

namespace Renderer

variable {r : Renderer} {scene : Scene} {e : Event} {n : ThreadNumbers}

/-- The renderer for lines of another format. -/
def inFormat (r : Renderer) (format : LineFormat) : Renderer :=
  { r with settings := { r.settings with format } }

/-- A JSON line has the plain values, whatever the format is set to. -/
theorem outcome_inFormat (r : Renderer) (plan : Plan) (n : ThreadNumbers) :
    (r.inFormat .json).outcome scene e plan n =
      (r.settings.layout.mapM fun f => r.plain? scene e n f.kind).elim .unwound fun values =>
        .line (r.jsonLine e values) := by
  simp only [outcome, inFormat, jsonLine, members]
  rfl

/-! ## Values -/

/-- What a line for a terminal has in place of a plain value. A level goes by the text that is set
    for it. -/
def shownText (r : Renderer) (e : Event) (kind : FieldKind) (value : Text) : Text :=
  if kind = .level then (r.settings.levels e.level).text else value

theorem ends_braces (hformatter : r.formatter = .braces) : r.formatter.Ends e := by
  rw [hformatter]
  exact fun _ => Option.some_ne_none _

theorem plain?_message (hformatter : r.formatter = .braces) :
    r.plain? scene e n .message = some (Message.text e.pattern e.args) := by
  have hshows := @Message.shows_toMarkup .none none nofun e.pattern e.args
  have htext : (Markup.evaluate (Message.toMarkup e.pattern e.args none)).toText =
      Message.text e.pattern e.args :=
    (Expression.toText_evaluate {} _).trans hshows.map_char_glyphs
  rw [← htext]
  simp only [plain?, plainValue, hformatter]
  rfl

theorem markup?_message (hformatter : r.formatter = .braces) :
    r.markup? scene e n .message =
      some (Message.toMarkup e.pattern e.args r.settings.parameterStyle) := by
  simp only [markup?, markupValue, hformatter]
  rfl

/-- The markup of a value shows the plain value, whatever characters it has. -/
theorem exists_markup? (hformatter : r.formatter = .braces) (hcolours : r.settings.OnlyColours)
    {kind : FieldKind} {value : Text} (hvalue : r.plain? scene e n kind = some value) :
    ∃ m, r.markup? scene e n kind = some m ∧
      ∀ resolver, Shows resolver m (r.shownText e kind value) := by
  cases kind with
  | level => exact ⟨_, rfl, fun _ => .of_not_special (hcolours.texts e.level)⟩
  | message =>
    cases (plain?_message hformatter).symm.trans hvalue
    exact ⟨_, markup?_message hformatter,
      fun _ => Message.shows_toMarkup hcolours.arguments e.pattern e.args⟩
  | _ =>
    cases hvalue
    exact ⟨_, rfl, fun _ => .escape _⟩

/-! ## Rows -/

section Rows

variable {plan : Plan} {markup shown : Field → Text} {fields : List Field}

/-- A field whose column adds a text to a line, after a gap unless it is the first. -/
def Adds (r : Renderer) (plan : Plan) (e : Event) (f : Field) (m t : Text) : Prop :=
  ∀ first line, (f.render (r.settings.expression r.hyphen) r.settings.gap m
      ((plan.get? f.name).getD 1) (r.levelTemplate e f) first line).toText =
    line.toText ++ (if first then [] else List.replicate r.settings.gap ' ') ++ t

/-- Columns after the first one add their texts, each of them after a gap. -/
theorem toText_columns_false (hadds : ∀ f ∈ fields, r.Adds plan e f (markup f) (shown f))
    (line : StyledText) :
    (r.columns plan e false (fields.map fun f => (f, markup f)) line).toText =
      line.toText ++ (fields.map shown).flatMap (List.replicate r.settings.gap ' ' ++ ·) := by
  induction fields generalizing line with
  | nil => exact (List.append_nil _).symm
  | cons f fields ih =>
    rw [List.forall_mem_cons] at hadds
    rw [List.map_cons, columns, ih hadds.2, hadds.1 false line, List.map_cons, List.flatMap_cons]
    simp only [Bool.false_eq_true, if_false, List.append_assoc]

/-- A row of columns shows their texts with gaps between them. -/
theorem toText_columns (hadds : ∀ f ∈ fields, r.Adds plan e f (markup f) (shown f)) :
    (r.columns plan e true (fields.map fun f => (f, markup f)) {}).toText =
      Text.join (List.replicate r.settings.gap ' ') (fields.map shown) := by
  cases fields with
  | nil => rfl
  | cons f fields =>
    rw [List.forall_mem_cons] at hadds
    rw [List.map_cons, columns, toText_columns_false hadds.2, hadds.1 true {}, List.map_cons,
      Text.join_cons]
    rfl

end Rows

theorem isNest_levelTemplate (hcolours : r.settings.OnlyColours) (f : Field) :
    ∀ template ∈ r.levelTemplate e f, IsNest "text".toList template := by
  intro template htemplate
  rw [eq_style_of_mem_levelTemplate htemplate]
  exact hcolours.levels e.level

/-- A plain line shows the texts of its fields, cut and padded to the cells of their columns. -/
theorem text_ttyLine (hcolours : r.settings.OnlyColours) {plan : Plan} {cells : Field → Nat}
    (hcells : ∀ f ∈ r.settings.layout, plan.get? f.name = some (cells f))
    (hpos : ∀ f ∈ r.settings.layout, 1 ≤ cells f) {markup shown : Field → Text}
    (hshows : ∀ f resolver, Shows resolver (markup f) (shown f)) :
    (r.ttyLine plan false e (r.settings.layout.map markup)).text =
      Text.join (List.replicate r.settings.gap ' ') (r.settings.layout.map fun f =>
        f.fitText (r.settings.expression r.hyphen) (cells f) (shown f)) := by
  have hadds : ∀ f ∈ r.settings.layout, r.Adds plan e f (markup f)
      (f.fitText (r.settings.expression r.hyphen) (cells f) (shown f)) := by
    intro f hf first line
    rw [hcells f hf]
    exact (hcolours.fields f hf).toText_render (isNest_levelTemplate hcolours f) (hshows f _)
      (hpos f hf) r.settings.gap first line
  calc (r.ttyLine plan false e (r.settings.layout.map markup)).text
    _ = (r.columns plan e true (r.settings.layout.zip (r.settings.layout.map markup)) {}).toText :=
      rfl
    _ = _ := by rw [← List.map_prod_left_eq_zip, toText_columns hadds]

/-! ## Lines -/

/-- However they were used before, a renderer for plain lines whose templates only colour shows the
    values that the same renderer gives in JSON lines, for every event on a thread that is not
    rendering. The texts stand in the order of the columns with the gap between them, each cut and
    padded to the cells that are planned for its column. -/
theorem render_shows_values {b : Builder} (hbuild : b.build = .ok r.settings)
    (hformat : r.settings.format = .tty) (hmode : r.settings.mode = .plain)
    (hformatter : r.formatter = .braces) (hcolours : r.settings.OnlyColours) {s j : RenderState}
    (hnew : s.cache = {}) (steps : List Step)
    (hidle : (r.after s steps).guards.isActive scene.thread = false)
    (hjson : j.guards.isActive scene.thread = false)
    (hnumber : j.numbers.number scene.thread = (r.after s steps).numbers.number scene.thread) :
    ∃ (value : Field → Text) (cells : Field → Nat) (l : Line),
      (∀ f ∈ r.settings.layout, (Plan.ofFields r.settings.layout (r.width scene.terminal)
        r.settings.gap).get? f.name = some (cells f)) ∧
      ((r.inFormat .json).render scene e j).1 =
        .line { text := Json.object (r.members e (r.settings.layout.map value)) } ∧
      (r.render scene e (r.after s steps)).1 = .line l ∧
      l.text = Text.join (List.replicate r.settings.gap ' ')
        (r.settings.layout.map fun f => f.fitText (r.settings.expression r.hyphen) (cells f)
          (r.shownText e f.kind (value f))) := by
  have hends : r.formatter.Ends e := ends_braces hformatter
  have hnodup := Builder.nodup_of_build hbuild
  obtain ⟨_, -, hrender⟩ := render_of_not_isActive (r := r) hidle e
  obtain ⟨_, -, hrenderJson⟩ := render_of_not_isActive (r := r.inFormat .json) hjson e
  -- Every column has cells of its own.
  choose! cells hcells using fun f (hf : f ∈ r.settings.layout) =>
    Plan.exists_get?_ofFields hnodup hf (r.width scene.terminal) r.settings.gap
  have hpos : ∀ f ∈ r.settings.layout, 1 ≤ cells f :=
    fun f hf => Plan.one_le_of_get?_ofFields (hcells f hf)
  -- Every field has a value, and markup that shows it.
  have hfound (f : Field) : ∃ v, r.plain? scene e (r.after s steps).numbers f.kind = some v :=
    Option.ne_none_iff_exists'.mp (plain?_ne_none hends _ f.kind)
  choose value hvalue using hfound
  choose markup hmarkup hshows using fun f => exists_markup? hformatter hcolours (hvalue f)
  have hvalues : (r.settings.layout.mapM fun f => r.plain? scene e j.numbers f.kind) =
      some (r.settings.layout.map value) := by
    simp only [plain?_congr hnumber, hvalue]
    exact List.mapM_pure
  have hmarkups : (r.settings.layout.mapM fun f =>
      r.markup? scene e (r.after s steps).numbers f.kind) = some (r.settings.layout.map markup) := by
    simp only [hmarkup]
    exact List.mapM_pure
  refine ⟨value, cells, _, hcells, ?_, ?_, text_ttyLine (e := e) hcolours hcells hpos hshows⟩
  · rw [hrenderJson, outcome_inFormat, hvalues]
    rfl
  · rw [hrender, plan_after hnew]
    simp only [outcome, hformat, hmode, hmarkups]
    rfl

/-! An event whose texts look like markup, on a line of fifty cells. -/

def narrowed : Builder := { mode := .plain, width := 50, gap := 2 }

def narrow : Renderer := { settings := narrowed.assemble }

def marked : Event :=
  { level := .warn, logger := "a@\x7bbold".toList, pattern := "\\@\x7bred \x7b\x7d\x7d".toList,
    args := ["\x7d@\x7b".toList] }

theorem narrow_shows_marked :
    ∃ (value : Field → Text) (cells : Field → Nat) (l : Line),
      (∀ f ∈ narrow.settings.layout, (Plan.ofFields narrow.settings.layout 50 2).get? f.name =
        some (cells f)) ∧
      ((narrow.inFormat .json).render (sceneOf 80) marked {}).1 =
        .line { text := Json.object (narrow.members marked (narrow.settings.layout.map value)) } ∧
      (narrow.render (sceneOf 80) marked (narrow.after {} [.render (sceneOf 80) started])).1 =
        .line l ∧
      l.text = Text.join [' ', ' '] (narrow.settings.layout.map fun f =>
        f.fitText (narrow.settings.expression .latin1) (cells f)
          (narrow.shownText marked f.kind (value f))) :=
  @render_shows_values narrow (sceneOf 80) marked narrowed rfl rfl rfl rfl
    (Builder.onlyColours_assemble rfl rfl rfl) {} {} rfl [.render (sceneOf 80) started]
    (by decide +kernel) rfl (by decide +kernel)

end Renderer

end LogLine
