-- SUMMARY: Styled texts stay canonical however they are built, and are known from their letters.
import LogLine.Proofs.Markup.Evaluation
import Mathlib.Logic.Function.Basic

/-!
# Building styled texts

Any number of styled texts are built by pushing, appending and evaluating, each
step adding to one of them. Whatever the steps, the runs stay maximal, and the
letters of a text, which are its characters with their specs, are those that
were pushed, in their order. Where specs decide on styles there is only one text
with the same letters, so the way in which it was built does not show.
-/

namespace LogLine

/-! ## Letters -/

/-- The character of a glyph with its spec. -/
def Glyph.letter (g : Glyph) : Char × Text := (g.char, g.pen.spec)

theorem Pen.map_letter_write (p : Pen) (t : Text) :
    (p.write t).map Glyph.letter = t.map (·, p.spec) := by
  rw [write, List.map_map]
  rfl

namespace StyledText

/-- The characters of a styled text with their specs. -/
def letters (t : StyledText) : List (Char × Text) :=
  t.runs.flatMap fun r => r.text.map (·, r.spec)

theorem letters_push (t : StyledText) (text spec : Text) (style : Style) :
    (t.push text spec style).letters = t.letters ++ text.map (·, spec) := by
  cases text with
  | nil => rw [push_nil, List.map_nil, List.append_nil]
  | cons c text =>
    rw [push_cons, letters, letters]
    rcases List.eq_nil_or_concat t.runs with hruns | ⟨rs, last, hruns⟩
    · simp [hruns, addRun]
    · simp only [hruns, List.concat_eq_append, addRun_concat]
      split
      · next hspec => simp [List.flatMap_append, hspec]
      · simp [List.flatMap_append]

theorem letters_append (t u : StyledText) : (t ++ u).letters = t.letters ++ u.letters := by
  rw [append_eq_foldl]
  obtain ⟨rs⟩ := u
  induction rs generalizing t with
  | nil => exact (List.append_nil t.letters).symm
  | cons r rs ih =>
    rw [List.foldl_cons, ih, letters_push, List.append_assoc]
    rfl

theorem letters_ofGlyphs (gs : List Glyph) : (ofGlyphs gs).letters = gs.map Glyph.letter := by
  induction gs using List.reverseRecOn with
  | nil => rfl
  | append_singleton gs g ih =>
    rw [ofGlyphs_concat, Writer.add, letters_push, ih, List.map_append]
    rfl

theorem Canonical.append {t : StyledText} (h : t.Canonical) (u : StyledText) :
    (t ++ u).Canonical := by
  rw [append_eq_foldl]
  induction u.runs generalizing t with
  | nil => exact h
  | cons r rs ih => exact ih (h.push r.text r.spec r.style)

theorem StyledBy.append {styleOf : Text → Style} {t u : StyledText} (ht : t.StyledBy styleOf)
    (hu : u.StyledBy styleOf) : (t ++ u).StyledBy styleOf := by
  rw [append_eq_foldl]
  obtain ⟨rs⟩ := u
  induction rs generalizing t with
  | nil => exact ht
  | cons r rs ih =>
    have hr : r.style = styleOf r.spec := hu r List.mem_cons_self
    rw [List.foldl_cons, hr]
    exact ih (ht.push r.text r.spec) fun q hq => hu q (List.mem_cons_of_mem r hq)

/-- Where specs decide on styles, a canonical text is known from its letters. -/
theorem Canonical.ext_letters {styleOf : Text → Style} {t u : StyledText} (ht : t.Canonical)
    (hu : u.Canonical) (hst : t.StyledBy styleOf) (hsu : u.StyledBy styleOf)
    (h : t.letters = u.letters) : t = u := by
  have hglyphs {v : StyledText} (hv : v.StyledBy styleOf) :
      v.glyphs = v.letters.map fun l => ⟨l.1, l.2, styleOf l.2⟩ := by
    rw [letters, glyphs, List.map_flatMap]
    refine List.flatMap_congr fun r hr => ?_
    rw [List.map_map, Run.glyphs, Run.pen, hv r hr]
    rfl
  exact ht.ext hu (by rw [hglyphs hst, hglyphs hsu, h])

/-! ## Steps -/

/-- What can be done to texts that are told apart by numbers. -/
inductive Step where
  | push (slot : Nat) (text spec : Text) (style : Style)
  | pushChar (slot : Nat) (c : Char) (spec : Text) (style : Style)
  /-- Appends a text to a text, which may be the same one. -/
  | append (slot source : Nat)
  /-- Puts a new text, in the default style, in the place of one. -/
  | plain (slot : Nat) (text : Text)
  | evaluateInto (slot : Nat) (e : Expression) (markup : Text)

namespace Step

/-- The number of the text that a step changes. -/
def slot : Step → Nat
  | .push slot .. | .pushChar slot .. | .append slot _ | .plain slot _ | .evaluateInto slot .. =>
    slot

/-- What becomes of this text. -/
def result (texts : Nat → StyledText) : Step → StyledText
  | .push slot text spec style => (texts slot).push text spec style
  | .pushChar slot c spec style => (texts slot).push [c] spec style
  | .append slot source => texts slot ++ texts source
  | .plain _ text => StyledText.plain text
  | .evaluateInto slot e markup => e.evaluateInto (texts slot) markup

def apply (texts : Nat → StyledText) (step : Step) : Nat → StyledText :=
  Function.update texts step.slot (step.result texts)

/-- The glyphs that a step pushes by itself. An evaluation pushes those of the markup, cut to the
    limit of the expression. -/
def glyphs : Step → List Glyph
  | .push _ text spec style => Pen.write ⟨spec, style⟩ text
  | .pushChar _ c spec style => Pen.write ⟨spec, style⟩ [c]
  | .append .. => []
  | .plain _ text => Pen.default.write text
  | .evaluateInto _ e markup => e.shown markup

/-- The styles that a step pushes are those of their specs. -/
def Styled (styleOf : Text → Style) (step : Step) : Prop :=
  ∀ g ∈ step.glyphs, g.pen.style = styleOf g.pen.spec

/-- The letters that a text has after a step, if before it all texts had the given ones. -/
def resultLetters (letters : Nat → List (Char × Text)) : Step → List (Char × Text)
  | .append slot source => letters slot ++ letters source
  | .plain slot text => (plain slot text).glyphs.map Glyph.letter
  | step => letters step.slot ++ step.glyphs.map Glyph.letter

def applyLetters (letters : Nat → List (Char × Text)) (step : Step) : Nat → List (Char × Text) :=
  Function.update letters step.slot (step.resultLetters letters)

end Step

/-- The texts after some steps. All of them were empty before the first one. -/
def build (steps : List Step) : Nat → StyledText := steps.foldl Step.apply fun _ => {}

/-- The letters that were pushed to each text. -/
def pushed (steps : List Step) : Nat → List (Char × Text) :=
  steps.foldl Step.applyLetters fun _ => []

namespace Step

theorem styled_push (styleOf : Text → Style) (slot : Nat) (text spec : Text) :
    (push slot text spec (styleOf spec)).Styled styleOf :=
  fun _ hg => Pen.pen_of_mem_write hg ▸ rfl

/-- An evaluation pushes the styles of its resolver. -/
theorem styled_evaluateInto (slot : Nat) (e : Expression) (markup : Text) :
    (evaluateInto slot e markup).Styled e.resolver.styleAt :=
  e.styleAt_of_mem_shown

variable {texts : Nat → StyledText}

theorem canonical_result (h : ∀ i, (texts i).Canonical) (step : Step) :
    (step.result texts).Canonical := by
  cases step with
  | push slot text spec style => exact (h slot).push text spec style
  | pushChar slot c spec style => exact (h slot).push [c] spec style
  | append slot source => exact (h slot).append (texts source)
  | plain slot text => exact canonical_nil.push text [] .default
  | evaluateInto slot e markup =>
    rw [result, e.evaluateInto_eq]
    exact (h slot).append _

theorem letters_result (step : Step) :
    (step.result texts).letters = step.resultLetters fun i => (texts i).letters := by
  cases step with
  | push slot text spec style =>
    rw [result, letters_push]
    exact congrArg _ (Pen.map_letter_write ⟨spec, style⟩ text).symm
  | pushChar slot c spec style => exact letters_push (texts slot) [c] spec style
  | append slot source => exact letters_append (texts slot) (texts source)
  | plain slot text =>
    rw [result, plain_eq_ofGlyphs, letters_ofGlyphs]
    rfl
  | evaluateInto slot e markup =>
    rw [result, e.evaluateInto_eq, letters_append, letters_ofGlyphs]
    rfl

theorem styledBy_result {styleOf : Text → Style} (h : ∀ i, (texts i).StyledBy styleOf)
    {step : Step} (hstep : step.Styled styleOf) : (step.result texts).StyledBy styleOf := by
  -- Whatever a step pushes by itself comes to the end of its text.
  have happended : (texts step.slot ++ ofGlyphs step.glyphs).StyledBy styleOf :=
    (h step.slot).append (styledBy_ofGlyphs hstep)
  cases step with
  | push slot text spec style =>
    rw [result, push_eq_foldl_add, foldl_add]
    exact happended
  | pushChar slot c spec style =>
    rw [result, push_eq_foldl_add, foldl_add]
    exact happended
  | append slot source => exact (h slot).append (h source)
  | plain slot text =>
    rw [result, plain_eq_ofGlyphs]
    exact styledBy_ofGlyphs hstep
  | evaluateInto slot e markup =>
    rw [result, e.evaluateInto_eq]
    exact happended

/-- What holds of the changed text and of the others before a step, holds of all texts after it. -/
theorem forall_apply {P : StyledText → Prop} {step : Step} (h : ∀ i, P (texts i))
    (hresult : P (step.result texts)) (i : Nat) : P (step.apply texts i) := by
  rw [apply, Function.update_apply]
  split
  · exact hresult
  · exact h i

theorem letters_apply (step : Step) :
    (fun i => (step.apply texts i).letters) = step.applyLetters fun i => (texts i).letters := by
  funext i
  rw [apply, applyLetters, Function.update_apply, Function.update_apply, ← letters_result]
  split <;> rfl

end Step

/-! ## Building -/

theorem build_concat (steps : List Step) (step : Step) :
    build (steps ++ [step]) = step.apply (build steps) := by
  rw [build, List.foldl_concat]
  rfl

theorem pushed_concat (steps : List Step) (step : Step) :
    pushed (steps ++ [step]) = step.applyLetters (pushed steps) := by
  rw [pushed, List.foldl_concat]
  rfl

theorem canonical_build (steps : List Step) (i : Nat) : (build steps i).Canonical := by
  induction steps using List.reverseRecOn generalizing i with
  | nil => exact canonical_nil
  | append_singleton steps step ih =>
    rw [build_concat]
    exact Step.forall_apply ih (Step.canonical_result ih step) i

theorem letters_build (steps : List Step) :
    (fun i => (build steps i).letters) = pushed steps := by
  induction steps using List.reverseRecOn with
  | nil => rfl
  | append_singleton steps step ih => rw [build_concat, pushed_concat, Step.letters_apply, ih]

theorem styledBy_build {styleOf : Text → Style} {steps : List Step}
    (h : ∀ step ∈ steps, step.Styled styleOf) (i : Nat) :
    (build steps i).StyledBy styleOf := by
  induction steps using List.reverseRecOn generalizing i with
  | nil => exact styledBy_nil styleOf
  | append_singleton steps step ih =>
    have hsteps := ih fun step' hstep' => h step' (List.mem_append_left _ hstep')
    rw [build_concat]
    exact Step.forall_apply hsteps (Step.styledBy_result hsteps (h step (by simp))) i

/-- However texts are built, no run of theirs is empty, neighbouring runs differ in their specs,
    and the letters of each text are those that were pushed to it. Where all pushed styles are one
    function of the specs, two texts have the same runs exactly if they have the same letters. -/
theorem build_canonical (steps : List Step) (i : Nat) :
    (∀ r ∈ (build steps i).runs, r.text ≠ []) ∧
    (build steps i).runs.IsChain (fun r r' => r.spec ≠ r'.spec) ∧
    (build steps i).letters = pushed steps i ∧
    ∀ (styleOf : Text → Style) (steps' : List Step) (j : Nat),
      (∀ step ∈ steps, step.Styled styleOf) → (∀ step ∈ steps', step.Styled styleOf) →
      ((build steps i).runs = (build steps' j).runs ↔
        (build steps i).letters = (build steps' j).letters) := by
  have hcanonical := canonical_build steps i
  refine ⟨hcanonical.filled, hcanonical.specs_ne, congrFun (letters_build steps) i, ?_⟩
  intro styleOf steps' j hstyled hstyled'
  constructor
  · intro hruns
    rw [letters, letters, hruns]
  · intro hletters
    have htexts : build steps i = build steps' j :=
      hcanonical.ext_letters (canonical_build steps' j) (styledBy_build hstyled i)
        (styledBy_build hstyled' j) hletters
    rw [htexts]

/-- A bold text that is appended to itself, and the same text evaluated under a limit that it just
    meets, so that its end was held back. -/
theorem build_canonical_twice :
    let resolver := ({} : StyleSheet).resolve
    let bold := "bold".toList
    let doubled : List Step :=
      [.push 0 "ab".toList bold (resolver.styleAt bold), .push 0 [] [] .default, .append 0 0]
    let four := ({ resolver } : Expression).limited 4
    let evaluated : List Step := [.evaluateInto 3 four "@\x7bbold abab\x7d".toList]
    (build doubled 0).letters = [('a', bold), ('b', bold), ('a', bold), ('b', bold)] ∧
      (build doubled 0).runs = (build evaluated 3).runs := by
  intro resolver bold doubled four evaluated
  obtain ⟨_, _, hletters, hiff⟩ := build_canonical doubled 0
  obtain ⟨_, _, hevaluated, _⟩ := build_canonical evaluated 3
  have hdoubled : ∀ step ∈ doubled, step.Styled resolver.styleAt := by
    simp only [doubled, List.forall_mem_cons]
    have hempty : ∀ g ∈ ([] : List Glyph), g.pen.style = resolver.styleAt g.pen.spec :=
      List.forall_mem_nil _
    exact ⟨Step.styled_push resolver.styleAt 0 _ bold, hempty, hempty, List.forall_mem_nil _⟩
  have hstyled : ∀ step ∈ evaluated, step.Styled resolver.styleAt := by
    simp only [evaluated, List.forall_mem_cons]
    exact ⟨Step.styled_evaluateInto 3 four _, List.forall_mem_nil _⟩
  refine ⟨hletters, (hiff resolver.styleAt evaluated 3 hdoubled hstyled).mpr ?_⟩
  rw [hletters, hevaluated]
  decide +kernel

end StyledText

end LogLine
