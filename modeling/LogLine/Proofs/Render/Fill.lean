-- SUMMARY: A line for a terminal is exactly as wide as the terminal.
import LogLine.Proofs.Config.Building
import LogLine.Proofs.Layout.Column
import LogLine.Proofs.Layout.Widths
import LogLine.Proofs.Render.History

/-!
# Lines that fill the terminal

The columns of a line take the cells that were planned for them, one after the
other with the gaps between them. With a column that takes what is left, the
planned cells and the gaps are together as wide as the terminal.
-/

namespace LogLine.Renderer

variable {r : Renderer} {scene : Scene} {e : Event} {n : ThreadNumbers}

/-! ## Columns in turn -/

/-- A field that takes exactly the planned cells, with whatever value the event has for it: the
    placeholder of its decoration stands once, between characters of text; the decoration leaves
    room for a value and for the ellipsis; and no character of the value in its style takes two
    cells. -/
structure Fits (r : Renderer) (scene : Scene) (e : Event) (n : ThreadNumbers) (f : Field)
    (planned : Nat) : Prop where
  align : f.align = .left ∨ f.align = .right
  decorated : ∃ before after, f.Decorated r.settings.styles.resolve before after
  room : f.decorationWidth (r.settings.expression r.hyphen) < planned
  ellipsis : r.settings.ellipsis.width r.hyphen ≤
    planned - f.decorationWidth (r.settings.expression r.hyphen)
  narrow : ∀ value, r.markup? scene e n f.kind = some value →
    Text.Narrow r.hyphen ((r.settings.expression r.hyphen).unlimited.evaluate
      (Text.replace f.placeholder value (f.template (r.levelTemplate e f)))).toText

/-- Columns add their planned cells to a line, with a gap before each but the first. -/
theorem width_columns {plan : Plan} {columns : List (Field × Text)}
    (hfits : ∀ c ∈ columns, r.markup? scene e n c.1.kind = some c.2 ∧
      r.Fits scene e n c.1 ((plan.get? c.1.name).getD 1)) (first : Bool) (line : StyledText) :
    (r.columns plan e first columns line).width r.hyphen =
      line.width r.hyphen + (columns.map fun c => (plan.get? c.1.name).getD 1).sum +
        (columns.length - if first then 1 else 0) * r.settings.gap := by
  induction columns generalizing first line with
  | nil => simp [columns]
  | cons column columns ih =>
    obtain ⟨f, value⟩ := column
    obtain ⟨hvalue, hfit⟩ : r.markup? scene e n f.kind = some value ∧
        r.Fits scene e n f ((plan.get? f.name).getD 1) := hfits (f, value) List.mem_cons_self
    obtain ⟨before, after, hdecorated⟩ := hfit.decorated
    have hcolumn : (f.render (r.settings.expression r.hyphen) r.settings.gap value
          ((plan.get? f.name).getD 1) (r.levelTemplate e f) first line).width r.hyphen =
        line.width r.hyphen + (if first then 0 else r.settings.gap) +
          (plan.get? f.name).getD 1 :=
      Field.width_render (e := r.settings.expression r.hyphen) hdecorated hfit.align hfit.room
        hfit.ellipsis (hfit.narrow value hvalue) r.settings.gap first line
    have hrest := ih fun c hc => hfits c (List.mem_cons_of_mem _ hc)
    rw [Renderer.columns, hrest, hcolumn, List.map_cons, List.sum_cons, List.length_cons]
    cases first with
    | true =>
      simp only [if_true, Bool.false_eq_true, if_false]
      rw [Nat.add_sub_cancel, Nat.sub_zero]
      omega
    | false =>
      simp only [Bool.false_eq_true, if_false]
      rw [Nat.sub_zero, Nat.sub_zero, Nat.add_mul]
      omega

/-! ## Lines -/

/-- The planned cells and the gaps are together as wide as the line. -/
theorem sum_planned {fields : List Field} (hnodup : (fields.map Field.name).Nodup)
    (hauto : ∃ f ∈ fields, f.isAuto = true) {width gap : Nat}
    (hwidth : fields.length + (fields.length - 1) * gap ≤ width) :
    (fields.map fun f => ((Plan.ofFields fields width gap).get? f.name).getD 1).sum +
      (fields.length - 1) * gap = width := by
  have hroom : fields.length ≤ Plan.room fields.length width gap := by
    unfold Plan.room
    omega
  have hsum := Plan.sum_widths hauto hroom
  have hget : (fields.map fun f => ((Plan.ofFields fields width gap).get? f.name).getD 1) =
      Plan.widths fields width gap := by
    have hmap := congrArg (List.map (·.getD 1)) (Plan.map_get?_ofFields hnodup width gap)
    rw [List.map_map, List.map_map] at hmap
    exact hmap.trans (List.map_id _)
  rw [hget, hsum]
  unfold Plan.room
  omega

/-- A plain line with values for all fields is as wide as it was planned. -/
theorem width_ttyLine {plan : Plan} {values : List Text}
    (hvalues : r.settings.layout.mapM (fun f => r.markup? scene e n f.kind) = some values)
    (hfits : ∀ f ∈ r.settings.layout, r.Fits scene e n f ((plan.get? f.name).getD 1)) :
    (r.ttyLine plan false e values).text.width r.hyphen =
      (r.settings.layout.map fun f => (plan.get? f.name).getD 1).sum +
        (r.settings.layout.length - 1) * r.settings.gap := by
  obtain ⟨hlength, hzip⟩ := List.forall₂_iff_zip.mp (forall₂_of_mapM hvalues)
  have hcolumns : ∀ c ∈ r.settings.layout.zip values, r.markup? scene e n c.1.kind = some c.2 ∧
      r.Fits scene e n c.1 ((plan.get? c.1.name).getD 1) :=
    fun c hc => ⟨hzip hc, hfits c.1 (List.of_mem_zip hc).1⟩
  have hfst : (r.settings.layout.zip values).map Prod.fst = r.settings.layout :=
    List.map_fst_zip (Nat.le_of_eq hlength)
  have hsum := congrArg (List.map fun f => (plan.get? f.name).getD 1) hfst
  rw [List.map_map] at hsum
  have hcount : (r.settings.layout.zip values).length = r.settings.layout.length := by
    rw [List.length_zip, hlength, Nat.min_self]
  have hwidth := width_columns hcolumns true {}
  rw [StyledText.width_eq] at hwidth
  calc (r.ttyLine plan false e values).text.width r.hyphen
    _ = (r.columns plan e true (r.settings.layout.zip values) {}).toText.width r.hyphen := rfl
    _ = 0 + ((r.settings.layout.zip values).map fun c => (plan.get? c.1.name).getD 1).sum +
        ((r.settings.layout.zip values).length - 1) * r.settings.gap := hwidth
    _ = (r.settings.layout.map fun f => (plan.get? f.name).getD 1).sum +
        (r.settings.layout.length - 1) * r.settings.gap := by
      rw [hcount, Nat.zero_add]
      exact congrArg (fun ws : List Nat => ws.sum + _) hsum

/-- However a renderer was used before, its plain lines fill the terminal: with a column that takes
    what is left, a cell for every column and fields that take the cells planned for them, every
    line is exactly as wide as the terminal. There is a line whenever the thread is not rendering
    already and the formatter does not break off. -/
theorem render_fills_terminal {b : Builder} (hbuild : b.build = .ok r.settings)
    (hformat : r.settings.format = .tty) (hmode : r.settings.mode = .plain) {s : RenderState}
    (hnew : s.cache = {}) (steps : List Step)
    (hauto : ∃ f ∈ r.settings.layout, f.isAuto = true)
    (hwidth : r.settings.layout.length + (r.settings.layout.length - 1) * r.settings.gap ≤
      r.width scene.terminal)
    (hfits : ∀ f ∈ r.settings.layout, ∀ planned,
      (Plan.ofFields r.settings.layout (r.width scene.terminal) r.settings.gap).get? f.name =
        some planned → r.Fits scene e (r.after s steps).numbers f planned) :
    (∀ l, (r.render scene e (r.after s steps)).1 = .line l →
      l.text.width r.hyphen = r.width scene.terminal) ∧
    ((r.after s steps).guards.isActive scene.thread = false →
      (∀ f ∈ r.settings.layout, r.markup? scene e (r.after s steps).numbers f.kind ≠ none) →
      ∃ l, (r.render scene e (r.after s steps)).1 = .line l) := by
  have hnodup := Builder.nodup_of_build hbuild
  have hplan := plan_after (r := r) hnew steps scene.terminal
  have hcells : ∀ f ∈ r.settings.layout, r.Fits scene e (r.after s steps).numbers f
      (((Plan.ofFields r.settings.layout (r.width scene.terminal) r.settings.gap).get?
        f.name).getD 1) := by
    intro f hf
    obtain ⟨planned, hplanned⟩ := Plan.exists_get?_ofFields hnodup hf (r.width scene.terminal)
      r.settings.gap
    rw [hplanned]
    exact hfits f hf planned hplanned
  cases hactive : (r.after s steps).guards.isActive scene.thread with
  | true =>
    rw [render_of_isActive hactive]
    exact ⟨nofun, nofun⟩
  | false =>
    obtain ⟨_, -, hrender⟩ := render_of_not_isActive (r := r) hactive e
    simp only [hrender, hplan, outcome, hformat, hmode, OutputMode.usesAnsi]
    refine ⟨fun l hl => ?_, fun _ hfound => ?_⟩
    · cases hvalues : r.settings.layout.mapM
        (fun f => r.markup? scene e (r.after s steps).numbers f.kind) with
      | none =>
        rw [hvalues] at hl
        cases hl
      | some values =>
        rw [hvalues] at hl
        cases hl
        rw [width_ttyLine hvalues hcells, sum_planned hnodup hauto hwidth]
    · obtain ⟨values, hvalues⟩ := exists_mapM hfound
      rw [hvalues]
      exact ⟨_, rfl⟩

/-! A renderer of plain lines of twenty cells, with the message in brackets. -/

def bracketed : Builder :=
  Builder.field { layout := ["level".toList, "message".toList], mode := .plain, width := 20 }
    { name := "message".toList, decoration := '[' :: placeholder "message".toList ++ [']'] }

def bracketing : Renderer := { settings := bracketed.assemble }

def somewhere : Scene :=
  { terminal := ⟨none, false⟩, clock := ⟨⟨0, 0, 0⟩, 0⟩, thread := ⟨1, none⟩ }

def written : Event :=
  { level := .info, logger := "db".toList, pattern := "wrote \x7b\x7d".toList,
    args := ["rows".toList] }

theorem fits_bracketing (scene : Scene) (n : ThreadNumbers) :
    ∀ f ∈ bracketing.settings.layout, ∀ planned,
      (Plan.ofFields bracketing.settings.layout 20 1).get? f.name = some planned →
        bracketing.Fits scene written n f planned := by
  have hlayout : bracketing.settings.layout =
      [{ name := "level".toList, width := 5 },
        { name := "message".toList
          decoration := '[' :: placeholder "message".toList ++ [']'] }] := by
    decide
  have hlevel : (Plan.ofFields bracketing.settings.layout 20 1).get? "level".toList = some 5 := by
    decide +kernel
  have hmessage : (Plan.ofFields bracketing.settings.layout 20 1).get? "message".toList =
      some 14 := by
    decide +kernel
  rw [hlayout]
  simp only [List.forall_mem_cons]
  refine ⟨fun planned hplanned => ?_, fun planned hplanned => ?_, by simp⟩
  · cases hlevel.symm.trans hplanned
    refine ⟨.inl rfl, ⟨[], [], by decide, by decide⟩, by decide +kernel, by decide +kernel, ?_⟩
    intro value hvalue
    cases hvalue
    decide +kernel
  · cases hmessage.symm.trans hplanned
    refine ⟨.inl rfl, ⟨['['], [']'], by decide, by decide⟩, by decide +kernel,
      by decide +kernel, ?_⟩
    intro value hvalue
    cases hvalue
    decide +kernel

theorem bracketing_fills_terminal :
    ∃ l, (bracketing.render somewhere written
        (bracketing.after {} [.render somewhere written, .invalidate])).1 = .line l ∧
      l.text.width .latin1 = 20 := by
  obtain ⟨hwidth, hline⟩ := @render_fills_terminal bracketing somewhere written bracketed rfl rfl
    rfl {} rfl [.render somewhere written, .invalidate] (by decide) (by decide)
    (fits_bracketing _ _)
  obtain ⟨l, hl⟩ := hline (by decide +kernel) (by decide +kernel)
  exact ⟨l, hl, hwidth l hl⟩

end LogLine.Renderer
