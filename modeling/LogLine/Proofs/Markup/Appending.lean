-- SUMMARY: Evaluating at the end of a text appends what the evaluation alone gives.
import LogLine.Proofs.Markup.Building

/-!
# Appending evaluations

A line is put together by evaluating markup after markup at the end of one text. The
writer pushes into that text one character at a time, so the first new run may merge
with the last run that was there. Nothing else passes from the text into the
evaluation, and nothing passes from one evaluation into the next: what comes to the end
of the text is what the evaluation gives by itself.
-/

namespace LogLine

namespace StyledText

/-! ## Seams -/

/-- A run that is added ends the runs, in the last one or as one of its own. -/
theorem exists_addRun (r : Run) (ts : List Run) :
    ∃ ts' last, addRun r ts = ts' ++ [last] ∧ last.spec = r.spec := by
  rcases List.eq_nil_or_concat ts with rfl | ⟨ts, last, rfl⟩
  · exact ⟨[], r, rfl, rfl⟩
  · rw [List.concat_eq_append, addRun_concat]
    split
    · next hspec => exact ⟨ts, _, rfl, hspec⟩
    · exact ⟨ts ++ [last], r, List.append_cons ts last [r], rfl⟩

/-- Runs that each differ in spec from the one before are added as they are. -/
theorem foldl_addRun_of_isChain {last : Run} {rs : List Run}
    (h : (last :: rs).IsChain fun r r' => r.spec ≠ r'.spec) (ts : List Run) :
    rs.foldl (fun ts r => addRun r ts) (ts ++ [last]) = ts ++ last :: rs := by
  induction rs generalizing last ts with
  | nil => rfl
  | cons r rs ih =>
    obtain ⟨hspec, hrest⟩ := List.isChain_cons_cons.mp h
    rw [List.foldl_cons, addRun_concat, if_neg hspec, List.append_cons, ih hrest,
      List.append_assoc]
    rfl

/-- Of the runs of an appended text only the first can merge; the others follow as they are. -/
theorem Canonical.runs_append {u : StyledText} (h : u.Canonical) {first : Run} {rest : List Run}
    (hruns : u.runs = first :: rest) (t : StyledText) :
    (t ++ u).runs = addRun first t.runs ++ rest := by
  obtain ⟨ts, last, hadd, hspec⟩ := exists_addRun first t.runs
  have hchain : (last :: rest).IsChain fun r r' => r.spec ≠ r'.spec := by
    have hspecs := h.specs_ne
    rw [hruns, List.isChain_cons] at hspecs
    exact List.isChain_cons.mpr ⟨fun r hr => hspec ▸ hspecs.1 r hr, hspecs.2⟩
  rw [h.filled.append_eq, hruns, List.foldl_cons, hadd, foldl_addRun_of_isChain hchain,
    List.append_assoc]
  rfl

/-- Texts can be appended one after the other or joined first. -/
theorem Filled.append_append {u : StyledText} (h : u.Filled) (t v : StyledText) :
    t ++ (u ++ v) = t ++ u ++ v := by
  rw [append_eq_foldl u, append_eq_foldl (t ++ u)]
  induction v.runs generalizing u with
  | nil => rfl
  | cons r rs ih =>
    rw [List.foldl_cons, List.foldl_cons, ih (h.push r.text r.spec r.style), h.append_push]

/-- Where specs decide on styles, appending adds exactly the glyphs. -/
theorem StyledBy.glyphs_append {styleOf : Text → Style} {t u : StyledText}
    (ht : t.StyledBy styleOf) (hu : u.StyledBy styleOf) : (t ++ u).glyphs = t.glyphs ++ u.glyphs := by
  rw [append_eq_foldl]
  obtain ⟨rs⟩ := u
  induction rs generalizing t with
  | nil => exact (List.append_nil t.glyphs).symm
  | cons r rs ih =>
    have hr : r.style = styleOf r.spec := hu r List.mem_cons_self
    have hrs : StyledBy styleOf ⟨rs⟩ := fun q hq => hu q (List.mem_cons_of_mem r hq)
    rw [List.foldl_cons, hr, ih (ht.push r.text r.spec) hrs, glyphs_push ht, ← hr,
      List.append_assoc]
    rfl

end StyledText

namespace Expression

variable (e : Expression)

/-! ## Evaluations at the end of a text -/

theorem evaluateInto_eq_append (out : StyledText) (m : Text) :
    e.evaluateInto out m = out ++ e.evaluate m := by
  rw [evaluateInto_eq, evaluate_eq]

theorem styledBy_evaluate (m : Text) : (e.evaluate m).StyledBy e.resolver.styleAt := by
  rw [evaluate_eq]
  exact StyledText.styledBy_ofGlyphs e.styleAt_of_mem_shown

/-- Evaluations in turn, each at the end of what was there. -/
def evaluateAll (out : StyledText) (calls : List (Expression × Text)) : StyledText :=
  calls.foldl (fun out call => call.1.evaluateInto out call.2) out

theorem evaluateAll_cons (out : StyledText) (e : Expression) (m : Text)
    (calls : List (Expression × Text)) :
    evaluateAll out ((e, m) :: calls) = evaluateAll (out ++ e.evaluate m) calls := by
  rw [← evaluateInto_eq_append]
  rfl

/-- Of evaluations in turn, each appends what it gives alone. -/
theorem evaluateAll_eq_foldl (out : StyledText) (calls : List (Expression × Text)) :
    evaluateAll out calls = calls.foldl (fun t call => t ++ call.1.evaluate call.2) out := by
  simp only [evaluateAll, evaluateInto_eq_append]

/-- Together they append what they give at the end of an empty text. -/
theorem evaluateAll_eq_append (out : StyledText) (calls : List (Expression × Text)) :
    evaluateAll out calls = out ++ evaluateAll {} calls := by
  induction calls generalizing out with
  | nil => rfl
  | cons call calls ih =>
    obtain ⟨e, m⟩ := call
    rw [evaluateAll_cons, evaluateAll_cons, ih, ih ({} ++ e.evaluate m),
      ← e.evaluateInto_eq_append {} m]
    exact ((e.canonical_evaluate m).filled.append_append out _).symm

/-- Evaluating markup at the end of a text appends what evaluating it alone gives. All its letters
    come to the end; only its first run can meet the earlier text, and joins the last run there if
    their specs agree. Where the styles of the earlier text are those of its specs, exactly the
    evaluated glyphs come to the end. Of evaluations in turn, each appends what it gives alone, so
    neither a limit nor an open scope of one reaches the next. -/
theorem evaluateInto_appends (out : StyledText) (m : Text) :
    e.evaluateInto out m = out ++ e.evaluate m ∧
    (e.evaluateInto out m).letters = out.letters ++ (e.evaluate m).letters ∧
    (∀ first rest, (e.evaluate m).runs = first :: rest →
      (e.evaluateInto out m).runs = StyledText.addRun first out.runs ++ rest) ∧
    (out.StyledBy e.resolver.styleAt →
      (e.evaluateInto out m).glyphs = out.glyphs ++ (e.evaluate m).glyphs) ∧
    ∀ calls, evaluateAll out calls = out ++ evaluateAll {} calls ∧
      evaluateAll {} calls = calls.foldl (fun t call => t ++ call.1.evaluate call.2) {} := by
  rw [e.evaluateInto_eq_append]
  refine ⟨rfl, StyledText.letters_append _ _, ?_, ?_, fun calls => ⟨?_, ?_⟩⟩
  · intro first rest hruns
    exact (e.canonical_evaluate m).runs_append hruns out
  · intro hstyled
    exact hstyled.glyphs_append (e.styledBy_evaluate m)
  · exact evaluateAll_eq_append out calls
  · exact evaluateAll_eq_foldl {} calls

/-- A scope that is left open under a limit, and the same scope again with another limit. -/
theorem evaluateInto_appends_reopened :
    let bold := "bold".toList
    let resolver := ({} : StyleSheet).resolve
    let opened := (({ resolver } : Expression).limited 3).evaluate "a@\x7bbold bcdef".toList
    let four := ({ resolver } : Expression).limited 4
    let markup := "@\x7bbold ghij\x7dklm".toList
    (four.evaluateInto opened markup).letters =
        [('a', []), ('.', bold), ('.', bold), ('g', bold), ('h', bold), ('.', []), ('.', [])] ∧
      (four.evaluateInto opened markup).glyphs = opened.glyphs ++ (four.evaluate markup).glyphs ∧
      (four.evaluateInto opened markup).runs.map Run.text =
        ["a".toList, "..gh".toList, "..".toList] := by
  intro bold resolver opened four markup
  obtain ⟨-, hletters, hruns, hglyphs, -⟩ := four.evaluateInto_appends opened markup
  have hmarkup : (four.evaluate markup).runs =
      [⟨"gh".toList, bold, resolver bold⟩, ⟨"..".toList, [], .default⟩] := by
    decide +kernel
  have hopened : opened.StyledBy resolver.styleAt :=
    styledBy_evaluate (({ resolver } : Expression).limited 3) _
  refine ⟨hletters.trans (by decide +kernel), hglyphs hopened, ?_⟩
  rw [hruns _ _ hmarkup]
  decide +kernel

end Expression

end LogLine
