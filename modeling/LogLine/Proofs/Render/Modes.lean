-- SUMMARY: Lines with escape sequences show what plain lines show.
import LogLine.Proofs.Render.Reuse
import LogLine.Proofs.Style.Painted

/-!
# Lines with and without sequences

Whether lines carry escape sequences is decided last: the plan, the values and the
columns are the same, and only then is the text painted. So a line with sequences
is the plain line once these are passed over, and so is the report on an error.
-/

namespace LogLine

open Text (withoutSgr)

namespace Renderer

variable {r : Renderer} {scene : Scene} {e : Event} {s : RenderState}

/-- The renderer in another output mode. -/
def inMode (r : Renderer) (mode : OutputMode) : Renderer :=
  { r with settings := { r.settings with mode } }

theorem markup?_inMode (r : Renderer) (mode : OutputMode) (n : ThreadNumbers) (kind : FieldKind) :
    (r.inMode mode).markup? scene e n kind = r.markup? scene e n kind := by
  cases kind <;> rfl

theorem ttyLine_inMode (r : Renderer) (mode : OutputMode) (plan : Plan) (ansi : Bool) (e : Event)
    (values : List Text) :
    (r.inMode mode).ttyLine plan ansi e values = r.ttyLine plan ansi e values :=
  ttyLine_congr r (r.inMode mode) rfl rfl (fun _ => rfl) rfl plan ansi values

/-- The mode counts for nothing but the painting. -/
theorem outcome_inMode (hformat : r.settings.format = .tty) (mode : OutputMode) (plan : Plan)
    (n : ThreadNumbers) : (r.inMode mode).outcome scene e plan n =
      (r.settings.layout.mapM fun f => r.markup? scene e n f.kind).elim .unwound fun values =>
        .line (r.ttyLine plan (mode.usesAnsi scene.terminal) e values) := by
  unfold outcome
  rw [show (r.inMode mode).settings.format = .tty from hformat]
  simp only [markup?_inMode, ttyLine_inMode]
  rfl

theorem withoutSgr_text {plan : Plan} {values : List Text}
    (h : '\x1b' ∉ (r.ttyLine plan false e values).text) :
    withoutSgr (r.ttyLine plan true e values).text = (r.ttyLine plan false e values).text :=
  StyledText.withoutSgr_render_true h

theorem withoutSgr_report {plan : Plan} {values : List Text} (h : ∀ m ∈ e.errors, '\x1b' ∉ m) :
    (r.ttyLine plan true e values).trailer.map withoutSgr =
      (r.ttyLine plan false e values).trailer := by
  unfold ttyLine
  cases herrors : e.errors with
  | nil => rfl
  | cons error causes =>
    rw [herrors, List.forall_mem_cons] at h
    exact congrArg some (withoutSgr_trailer h.1 h.2)

/-- Two renderers that differ in the output mode only, one with escape sequences and one without,
    give lines for the same events, however each of them was used before. Both lines have a report,
    or neither has. Without an escape character in the texts of the line, the one with sequences is
    the plain one once the sequences are deleted, and so is its report without an escape character
    in the messages of the errors. -/
theorem withoutSgr_render (hformat : r.settings.format = .tty) (hends : r.formatter.Ends e)
    {s t : RenderState} (hs : s.cache = {}) (ht : t.cache = {}) (steps steps' : List Step)
    (hidle : ((r.inMode .plain).after s steps).guards.isActive scene.thread = false)
    (hidle' : ((r.inMode .ansi).after t steps').guards.isActive scene.thread = false)
    (hnumber : ((r.inMode .ansi).after t steps').numbers.number scene.thread =
      ((r.inMode .plain).after s steps).numbers.number scene.thread) :
    ∃ plain ansi,
      ((r.inMode .plain).render scene e ((r.inMode .plain).after s steps)).1 = .line plain ∧
      ((r.inMode .ansi).render scene e ((r.inMode .ansi).after t steps')).1 = .line ansi ∧
      ansi.trailer.isSome = plain.trailer.isSome ∧
      ('\x1b' ∉ plain.text → withoutSgr ansi.text = plain.text) ∧
      ((∀ m ∈ e.errors, '\x1b' ∉ m) → ansi.trailer.map withoutSgr = plain.trailer) := by
  obtain ⟨_, -, hplain⟩ := render_of_not_isActive (r := r.inMode .plain) hidle e
  obtain ⟨_, -, hansi⟩ := render_of_not_isActive (r := r.inMode .ansi) hidle' e
  -- Both make the same plan and find the same values.
  have hplan := plan_after (r := r.inMode .plain) hs steps scene.terminal
  have hplan' := plan_after (r := r.inMode .ansi) ht steps' scene.terminal
  have hsame : (r.inMode .ansi).plan scene.terminal ((r.inMode .ansi).after t steps') =
      (r.inMode .plain).plan scene.terminal ((r.inMode .plain).after s steps) :=
    hplan'.trans hplan.symm
  have hfound : ∀ f ∈ r.settings.layout, r.markup? scene e
      ((r.inMode .plain).after s steps).numbers f.kind ≠ none :=
    fun f _ => markup?_ne_none hends _ f.kind
  obtain ⟨values, hvalues⟩ := exists_mapM hfound
  rw [hplain, hansi, hsame, outcome_congr hnumber, outcome_inMode hformat, outcome_inMode hformat,
    hvalues]
  refine ⟨_, _, rfl, rfl, ?_, withoutSgr_text, withoutSgr_report⟩
  simp only [OutputMode.usesAnsi, ttyLine]
  cases e.errors <;> rfl

/-! An event with an error, on a terminal of forty cells. -/

def failed : Event :=
  { level := .error, logger := "db".toList, pattern := "lost \x7b\x7d".toList,
    args := ["@\x7brow".toList], errors := ["reset".toList, "broken pipe".toList] }

theorem withoutSgr_render_failed :
    ∃ plain ansi, ((common.inMode .plain).render (sceneOf 40) failed {}).1 = .line plain ∧
      ((common.inMode .ansi).render (sceneOf 40) failed {}).1 = .line ansi ∧
      '\x1b' ∈ ansi.text ∧ withoutSgr ansi.text = plain.text ∧
      ansi.trailer.map withoutSgr = plain.trailer := by
  obtain ⟨plain, ansi, hplain, hansi, -, htext, htrailer⟩ := @withoutSgr_render common (sceneOf 40)
    failed rfl (fun _ => Option.some_ne_none _) {} {} rfl rfl [] [] rfl rfl (by decide +kernel)
  have hbare (l : Line) (h : ((common.inMode .plain).render (sceneOf 40) failed {}).1 = .line l) :
      '\x1b' ∉ l.text := by
    have hclean : ((common.inMode .plain).render (sceneOf 40) failed {}).1.line?.all
        (fun l => !l.text.contains '\x1b') = true := by decide +kernel
    rw [h] at hclean
    simpa [Outcome.line?] using hclean
  have hpainted (l : Line) (h : ((common.inMode .ansi).render (sceneOf 40) failed {}).1 = .line l) :
      '\x1b' ∈ l.text := by
    have hsequence : ((common.inMode .ansi).render (sceneOf 40) failed {}).1.line?.all
        (fun l => l.text.contains '\x1b') = true := by decide +kernel
    rw [h] at hsequence
    simpa [Outcome.line?] using hsequence
  exact ⟨plain, ansi, hplain, hansi, hpainted ansi hansi, htext (hbare plain hplain),
    htrailer (by decide)⟩

end Renderer

end LogLine
