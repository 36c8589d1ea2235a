-- SUMMARY: Renderings one after another: what a line depends on, and what it leaves behind.
import LogLine.Proofs.Layout.Caching
import LogLine.Proofs.Render.Values

/-!
# Renderings one after another

A renderer is asked for lines in any order, on any thread and for terminals of
any width; its kept plan may be given up, and other code may take numbers and
guards in between. Whatever happens, a kept plan is the one that would be made
anew for its width, so a line does not show what was rendered before it.
-/

namespace LogLine

/-! ## A single rendering -/

theorem Guards.leave_enter {g : Guards} {t : Thread} (h : g.isActive t = false) :
    (g.mark t true).leave t = g := by
  have active : (fun key => if key = t.key then false else (g.mark t true).active key) =
      g.active := by
    funext key
    unfold Guards.mark
    split
    · next hkey => rw [hkey]; exact h.symm
    · next hkey => exact if_neg hkey
  exact congrArg Guards.mk active

namespace Renderer

variable {r : Renderer} {scene : Scene} {e : Event} {s : RenderState}

/-- What becomes of an event on a thread that is let in, with a plan and the numbers of the
    threads. -/
def outcome (r : Renderer) (scene : Scene) (e : Event) (plan : Plan) (n : ThreadNumbers) :
    Outcome :=
  match r.settings.format with
  | .tty =>
    (r.settings.layout.mapM fun f => r.markup? scene e n f.kind).elim .unwound fun values =>
      .line (r.ttyLine plan (r.settings.mode.usesAnsi scene.terminal) e values)
  | .json =>
    (r.settings.layout.mapM fun f => r.plain? scene e n f.kind).elim .unwound fun values =>
      .line (r.jsonLine e values)

/-- What outlives a line once its plan was asked for. Only lines for a terminal have one. -/
def planned (r : Renderer) (t : Terminal) (s : RenderState) : RenderState :=
  match r.settings.format with
  | .tty => (r.planFor t s).2
  | .json => s

theorem planned_withGuards (r : Renderer) (t : Terminal) (s : RenderState) (guards : Guards) :
    r.planned t { s with guards } = { r.planned t s with guards } := by
  unfold planned
  cases r.settings.format <;> rfl

/-- The plan that is used for a terminal. -/
def plan (r : Renderer) (t : Terminal) (s : RenderState) : Plan :=
  s.cache.get r.settings.layout (r.width t) r.settings.gap

theorem renderGuarded_eq {again : Rendering} (active : s.guards.isActive scene.thread = true)
    (refuses : again.Refuses scene.thread) :
    ∃ n, s.numbers.Asked scene.thread n ∧ r.renderGuarded again scene e s =
      (r.outcome scene e (r.plan scene.terminal s) s.numbers,
        { r.planned scene.terminal s with numbers := n }) := by
  unfold renderGuarded outcome planned
  cases r.settings.format with
  | tty =>
    obtain ⟨n, hn, hvalues⟩ := values_markupValue (r := r) (e := e)
      (s := (r.planFor scene.terminal s).2) active refuses r.settings.layout
    refine ⟨n, hn, ?_⟩
    simp only [hvalues]
    rfl
  | json =>
    obtain ⟨n, hn, hvalues⟩ := values_plainValue (r := r) (e := e) active refuses r.settings.layout
    refine ⟨n, hn, ?_⟩
    simp only [hvalues]

theorem refuses_renderWithin (r : Renderer) (scene : Scene) (depth : Nat) :
    Rendering.Refuses (r.renderWithin scene depth) scene.thread :=
  fun e _ active => renderWithin_of_isActive active depth e

theorem renderWithin_of_not_isActive (idle : s.guards.isActive scene.thread = false) (depth : Nat)
    (e : Event) :
    r.renderWithin scene (depth + 1) e s =
      let result := r.renderGuarded (r.renderWithin scene depth) scene e
        { s with guards := s.guards.mark scene.thread true }
      (result.1, { result.2 with guards := result.2.guards.leave scene.thread }) := by
  rw [renderWithin, Guards.enter_of_not_isActive idle]

theorem render_of_isActive (active : s.guards.isActive scene.thread = true) (e : Event) :
    r.render scene e s = (.refused, s) := renderWithin_of_isActive active 2 e

/-- A thread that is not rendering is let in. What the event becomes depends on the plan and the
    thread's number, and the guards are afterwards as they were. -/
theorem render_of_not_isActive (idle : s.guards.isActive scene.thread = false) (e : Event) :
    ∃ n, s.numbers.Asked scene.thread n ∧ r.render scene e s =
      (r.outcome scene e (r.plan scene.terminal s) s.numbers,
        { r.planned scene.terminal s with numbers := n, guards := s.guards }) := by
  -- The mark is set while the formatter runs, so the rendering inside refuses the thread.
  have active : (s.guards.mark scene.thread true).isActive scene.thread = true := by
    rw [Guards.isActive_mark, if_pos rfl]
  obtain ⟨n, hn, hguarded⟩ := renderGuarded_eq (r := r) (e := e)
    (s := { s with guards := s.guards.mark scene.thread true }) active
    (r.refuses_renderWithin scene 1)
  refine ⟨n, hn, ?_⟩
  rw [render, renderWithin_of_not_isActive idle, hguarded, planned_withGuards]
  simp only [Guards.leave_enter idle]
  rfl

/-! ## Runs -/

/-- What happens around a renderer. -/
inductive Step where
  | render (scene : Scene) (e : Event)
  /-- Gives the kept plan up. -/
  | invalidate
  /-- Other code takes numbers and guards. -/
  | elsewhere (numbers : ThreadNumbers) (guards : Guards)

/-- What outlives a step. -/
def step (r : Renderer) (s : RenderState) : Step → RenderState
  | .render scene e => (r.render scene e s).2
  | .invalidate => { s with cache := s.cache.invalidate }
  | .elsewhere numbers guards => { s with numbers, guards }

/-- What outlives steps in turn. -/
def after (r : Renderer) (s : RenderState) (steps : List Step) : RenderState :=
  steps.foldl r.step s

/-- Whether the plan kept for a renderer is the one that it would make anew. -/
def Faithful (r : Renderer) (s : RenderState) : Prop :=
  s.cache.Faithful r.settings.layout r.settings.gap

theorem Faithful.planned (h : r.Faithful s) (t : Terminal) : r.Faithful (r.planned t s) := by
  unfold Renderer.planned
  cases r.settings.format with
  | tty => exact h.visit _
  | json => exact h

theorem Faithful.step (h : r.Faithful s) (step : Step) : r.Faithful (r.step s step) := by
  cases step with
  | render scene e =>
    cases hactive : s.guards.isActive scene.thread with
    | true =>
      rw [Renderer.step, render_of_isActive hactive]
      exact h
    | false =>
      obtain ⟨n, -, hrender⟩ := render_of_not_isActive (r := r) hactive e
      rw [Renderer.step, hrender]
      exact h.planned scene.terminal
  | invalidate => exact PlanCache.faithful_invalidate s.cache
  | elsewhere numbers guards => exact h

theorem Faithful.after (h : r.Faithful s) (steps : List Step) : r.Faithful (r.after s steps) := by
  induction steps generalizing s with
  | nil => exact h
  | cons step steps ih => exact ih (h.step step)

theorem faithful_after (hnew : s.cache = {}) (steps : List Step) :
    r.Faithful (r.after s steps) := by
  have hstart : r.Faithful s := by
    unfold Faithful
    rw [hnew]
    exact PlanCache.faithful_new _ _
  exact hstart.after steps

/-- However a renderer was used, it plans as if it were new. -/
theorem plan_after (hnew : s.cache = {}) (steps : List Step) (t : Terminal) :
    r.plan t (r.after s steps) =
      .ofFields r.settings.layout (r.width t) r.settings.gap :=
  (faithful_after hnew steps).get_eq (r.width t)

end Renderer

end LogLine
