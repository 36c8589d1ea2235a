-- SUMMARY: A used renderer gives the lines of a new one, and plans anew exactly when it has to.
import LogLine.Proofs.Render.History

/-!
# Used and new renderers

What an event becomes depends on the renderer, the scene and the number of the
thread, whatever was rendered before. Only the count of plans shows a renderer's
past: a line for a terminal is planned anew unless the last one was laid out for
the same width and the plan was not given up since.
-/

namespace LogLine

/-- Whether a formatter ends with a message for an event, on a thread that is rendering. -/
def Formatter.Ends (f : Formatter) (e : Event) : Prop :=
  ∀ style, (f e.pattern e.args style).whileRendering ≠ none

namespace Renderer

variable {r : Renderer} {scene : Scene} {e : Event} {s : RenderState}

/-! ## Outcomes -/

theorem plain?_ne_none (h : r.formatter.Ends e) (n : ThreadNumbers) (kind : FieldKind) :
    r.plain? scene e n kind ≠ none := by
  cases kind with
  | message =>
    have hactive := RenderState.isActive_during n scene.thread
    simpa [plain?, plainValue, Formatting.run_eq_whileRendering hactive fun _ => rfl] using h none
  | _ => exact Option.some_ne_none _

theorem markup?_ne_none (h : r.formatter.Ends e) (n : ThreadNumbers) (kind : FieldKind) :
    r.markup? scene e n kind ≠ none := by
  cases kind with
  | message =>
    have hactive := RenderState.isActive_during n scene.thread
    rw [markup?, markupValue, Formatting.run_eq_whileRendering hactive fun _ => rfl]
    exact h r.settings.parameterStyle
  | level => exact Option.some_ne_none _
  | _ => exact Option.some_ne_none _

/-- With a formatter that ends, a line for a terminal has the markup of every field. -/
theorem exists_outcome_tty (scene : Scene) (h : r.formatter.Ends e)
    (hformat : r.settings.format = .tty) (plan : Plan) (n : ThreadNumbers) :
    ∃ markup : Field → Text, (∀ f, r.markup? scene e n f.kind = some (markup f)) ∧
      r.outcome scene e plan n = .line (r.ttyLine plan (r.settings.mode.usesAnsi scene.terminal) e
        (r.settings.layout.map markup)) := by
  have hfound (f : Field) : ∃ m, r.markup? scene e n f.kind = some m :=
    Option.ne_none_iff_exists'.mp (markup?_ne_none h n f.kind)
  choose markup hmarkup using hfound
  refine ⟨markup, hmarkup, ?_⟩
  simp only [outcome, hformat, mapM_eq_some_map hmarkup]
  rfl

/-- With a formatter that ends, a JSON line has the plain value of every field. -/
theorem exists_outcome_json (scene : Scene) (h : r.formatter.Ends e)
    (hformat : r.settings.format = .json) (plan : Plan) (n : ThreadNumbers) :
    ∃ value : Field → Text, (∀ f, r.plain? scene e n f.kind = some (value f)) ∧
      r.outcome scene e plan n = .line (r.jsonLine e (r.settings.layout.map value)) := by
  have hfound (f : Field) : ∃ v, r.plain? scene e n f.kind = some v :=
    Option.ne_none_iff_exists'.mp (plain?_ne_none h n f.kind)
  choose value hvalue using hfound
  refine ⟨value, hvalue, ?_⟩
  simp only [outcome, hformat, mapM_eq_some_map hvalue]
  rfl

/-- With a formatter that ends, an event on a thread that is let in becomes a line. -/
theorem exists_line (h : r.formatter.Ends e) (plan : Plan) (n : ThreadNumbers) :
    ∃ l, r.outcome scene e plan n = .line l := by
  cases hformat : r.settings.format with
  | tty =>
    obtain ⟨_, -, hline⟩ := exists_outcome_tty scene h hformat plan n
    exact ⟨_, hline⟩
  | json =>
    obtain ⟨_, -, hline⟩ := exists_outcome_json scene h hformat plan n
    exact ⟨_, hline⟩

theorem outcome_congr {n n' : ThreadNumbers} (h : n'.number scene.thread = n.number scene.thread)
    (plan : Plan) : r.outcome scene e plan n' = r.outcome scene e plan n := by
  simp only [outcome, plain?_congr h, markup?_congr h]

/-! ## Plans that were asked for -/

/-- The width that a step leaves the kept plan for, if it leaves one. -/
def laidOutBy (r : Renderer) (s : RenderState) (last : Option Nat) : Step → Option Nat
  | .render scene _ =>
    if s.guards.isActive scene.thread then last else some (r.width scene.terminal)
  | .invalidate => none
  | .elsewhere _ _ => last

/-- The width of the last line for a terminal, if there was one and its plan was not given up
    since. A thread that was refused got no line. -/
def laidOut (r : Renderer) : RenderState → (last : Option Nat) → List Step → Option Nat
  | _, last, [] => last
  | s, last, step :: steps => r.laidOut (r.step s step) (r.laidOutBy s last step) steps

theorem keptWidth_step (hformat : r.settings.format = .tty) (s : RenderState) (step : Step) :
    (r.step s step).cache.keptWidth = r.laidOutBy s s.cache.keptWidth step := by
  cases step with
  | render scene e =>
    cases hactive : s.guards.isActive scene.thread with
    | true => simp only [Renderer.step, laidOutBy, render_of_isActive hactive, hactive, if_true]
    | false =>
      obtain ⟨n, -, hrender⟩ := render_of_not_isActive (r := r) hactive e
      simp only [Renderer.step, laidOutBy, hrender, hactive, planned, hformat, planFor,
        PlanCache.keptWidth_visit, Bool.false_eq_true, if_false]
  | invalidate => rfl
  | elsewhere numbers guards => rfl

/-- After any steps the kept plan is for the width of the last line. -/
theorem keptWidth_after (hformat : r.settings.format = .tty) (s : RenderState)
    (steps : List Step) :
    (r.after s steps).cache.keptWidth = r.laidOut s s.cache.keptWidth steps := by
  induction steps generalizing s with
  | nil => rfl
  | cons step steps ih =>
    calc (r.after s (step :: steps)).cache.keptWidth
      _ = (r.after (r.step s step) steps).cache.keptWidth := rfl
      _ = r.laidOut (r.step s step) (r.step s step).cache.keptWidth steps := ih _
      _ = r.laidOut s s.cache.keptWidth (step :: steps) := by
        rw [keptWidth_step hformat, laidOut]

/-! ## Used renderers -/

/-- However a renderer was used before, an event on a thread that is not rendering becomes what a
    new renderer makes of it, for the same scene and number of the thread; with a formatter that
    ends, it becomes a line. A line for a terminal adds a plan to the count exactly if the last one
    was laid out for another width, or there was none, or its plan was given up; a JSON line adds
    none. -/
theorem render_after_eq_new (hnew : s.cache = {}) (steps : List Step)
    (hidle : (r.after s steps).guards.isActive scene.thread = false) {fresh : RenderState}
    (hfresh : fresh.cache = {}) (hfreshIdle : fresh.guards.isActive scene.thread = false)
    (hnumber : fresh.numbers.number scene.thread =
      (r.after s steps).numbers.number scene.thread) :
    (r.render scene e (r.after s steps)).1 = (r.render scene e fresh).1 ∧
    (r.formatter.Ends e → ∃ l, (r.render scene e (r.after s steps)).1 = .line l) ∧
    (r.settings.format = .tty →
      (r.render scene e (r.after s steps)).2.cache.rebuilds =
        (r.after s steps).cache.rebuilds +
          if r.laidOut s none steps = some (r.width scene.terminal) then 0 else 1) ∧
    (r.settings.format = .json →
      (r.render scene e (r.after s steps)).2.cache.rebuilds =
        (r.after s steps).cache.rebuilds) := by
  obtain ⟨n, -, hused⟩ := render_of_not_isActive (r := r) hidle e
  obtain ⟨n', -, hunused⟩ := render_of_not_isActive (r := r) hfreshIdle e
  have hplan := plan_after (r := r) hnew steps scene.terminal
  have hfreshPlan : r.plan scene.terminal fresh = _ := plan_after (r := r) hfresh [] scene.terminal
  rw [hused, hunused]
  refine ⟨?_, fun hends => exists_line hends _ _, fun hformat => ?_, fun hformat => ?_⟩
  · rw [hplan, hfreshPlan]
    exact (outcome_congr hnumber _).symm
  · have hkept := keptWidth_after hformat s steps
    rw [hnew] at hkept
    simp only [planned, hformat, planFor, PlanCache.rebuilds_visit, hkept]
    rfl
  · simp only [planned, hformat]

/-! A renderer that is used for terminals of two widths. -/

def common : Renderer := { settings := .default }

def sceneOf (width : Nat) : Scene :=
  { terminal := ⟨some width, false⟩, clock := ⟨⟨0, 0, 0⟩, 0⟩, thread := ⟨1, none⟩ }

def started : Event := { level := .info, logger := "app".toList, pattern := "started".toList }

theorem common_after_resizing :
    let steps : List Step := [.render (sceneOf 40) started, .render (sceneOf 50) started]
    (common.render (sceneOf 40) started (common.after {} steps)).1 =
      (common.render (sceneOf 40) started {}).1 ∧
    (∃ l, (common.render (sceneOf 40) started (common.after {} steps)).1 = .line l) ∧
    (common.render (sceneOf 40) started (common.after {} steps)).2.cache.rebuilds = 2 + 1 := by
  have h := @render_after_eq_new common (sceneOf 40) started {} rfl
    [.render (sceneOf 40) started, .render (sceneOf 50) started] (by decide +kernel) {} rfl rfl
    (by decide +kernel)
  obtain ⟨hsame, hline, hplanned, -⟩ := h
  exact ⟨hsame, hline (fun _ => Option.some_ne_none _), (hplanned rfl).trans (by decide +kernel)⟩

end Renderer

end LogLine
