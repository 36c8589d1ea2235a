-- SUMMARY: Painted text without its escape sequences is the bare text.
import LogLine.Proofs.Markup.Glyphs
import LogLine.Render.Trailer
import Mathlib.Data.Nat.Digits.Defs

/-!
# Painted text without its sequences

A reader that passes over select-graphic-rendition sequences sees the bare text.
Which sequences a style writes does not matter for that, only that each of them is
complete before the text begins, and that the text itself has no escape character.
-/

namespace LogLine

namespace Text

/-! ## Passing over sequences -/

/-- Whether a character can stand between the bracket and the end of a sequence. -/
def isSgrParameter (c : Char) : Bool := c.isDigit || c == ';'

/-- The length of the select-graphic-rendition sequence that a text starts with. -/
def sgrLength? : Text → Option Nat
  | '\x1b' :: '[' :: rest =>
    let parameters := rest.takeWhile isSgrParameter
    if rest[parameters.length]? = some 'm' then some (parameters.length + 3) else none
  | _ => none

/-- `withoutSgr` with a number of characters of a sequence still to be passed over. -/
def withoutSgrFrom : Nat → Text → Text
  | _, [] => []
  | skip + 1, _ :: rest => withoutSgrFrom skip rest
  | 0, c :: rest =>
    match sgrLength? (c :: rest) with
    | some length => withoutSgrFrom (length - 1) rest
    | none => c :: withoutSgrFrom 0 rest

/-- The text without its select-graphic-rendition sequences: an escape character, a bracket, any
    number of digits and semicolons, and the letter `m`. -/
def withoutSgr (t : Text) : Text := withoutSgrFrom 0 t

theorem withoutSgrFrom_eq_drop (skip : Nat) (t : Text) :
    withoutSgrFrom skip t = withoutSgr (t.drop skip) := by
  induction skip generalizing t with
  | zero => rfl
  | succ skip ih =>
    cases t with
    | nil => rfl
    | cons c t => exact ih t

/-- Text without escape characters stays. -/
theorem withoutSgr_append {t : Text} (h : '\x1b' ∉ t) (u : Text) :
    withoutSgr (t ++ u) = t ++ withoutSgr u := by
  induction t with
  | nil => rfl
  | cons c t ih =>
    simp only [List.mem_cons, not_or] at h
    have hnone : sgrLength? (c :: (t ++ u)) = none := by
      unfold sgrLength?
      split
      · next heq => exact absurd (List.cons.inj heq).1.symm h.1
      · rfl
    rw [List.cons_append, withoutSgr, withoutSgrFrom, hnone]
    exact congrArg (c :: ·) (ih h.2)

/-- A sequence goes as a whole. -/
theorem withoutSgr_sgr {parameters : Text} (h : ∀ c ∈ parameters, isSgrParameter c = true)
    (u : Text) : withoutSgr (sgr parameters ++ u) = withoutSgr u := by
  have htake : (parameters ++ 'm' :: u).takeWhile isSgrParameter = parameters := by
    rw [List.takeWhile_append_of_pos h, List.takeWhile_cons_of_neg (by decide), List.append_nil]
  have hlength : sgrLength? ('\x1b' :: '[' :: (parameters ++ 'm' :: u)) =
      some (parameters.length + 3) := by
    simp [sgrLength?, htake]
  have hsgr : sgr parameters ++ u = '\x1b' :: '[' :: (parameters ++ 'm' :: u) := by
    simp [sgr]
  rw [hsgr, withoutSgr, withoutSgrFrom, hlength]
  simp only [withoutSgrFrom_eq_drop]
  simp

end Text

open Text (isSgrParameter withoutSgr)

/-! ## What styles write -/

theorem Text.isSgrParameter_of_mem_ofNat {n : Nat} {c : Char} (h : c ∈ Text.ofNat n) :
    isSgrParameter c = true := by
  have hdigit : c.isDigit = true := Nat.isDigit_of_mem_toDigits (by decide) (by decide) h
  rw [isSgrParameter, hdigit]
  rfl

theorem Color.isSgrParameter_of_mem {color : Color} {decade : Nat} {c : Char}
    (h : c ∈ color.parameters decade) : isSgrParameter c = true := by
  cases color with
  | base color => exact Text.isSgrParameter_of_mem_ofNat h
  | palette i =>
    simp only [Color.parameters, Text.join, List.intercalate_cons_cons, List.intercalate_singleton,
      List.mem_append, List.mem_singleton, or_assoc] at h
    rcases h with h | rfl | rfl | rfl | h
    · exact Text.isSgrParameter_of_mem_ofNat h
    · rfl
    · rfl
    · rfl
    · exact Text.isSgrParameter_of_mem_ofNat h

namespace Style

theorem isSgrParameter_of_mem {s : Style} {parameters : Text} (h : parameters ∈ s.parameters) :
    ∀ c ∈ parameters, isSgrParameter c = true := by
  intro c hc
  simp only [Style.parameters, List.mem_append, Option.mem_toList,
    Option.map_eq_some_iff, List.mem_map] at h
  rcases h with (⟨color, -, rfl⟩ | ⟨color, -, rfl⟩) | ⟨a, -, rfl⟩
  · exact Color.isSgrParameter_of_mem hc
  · exact Color.isSgrParameter_of_mem hc
  · exact Text.isSgrParameter_of_mem_ofNat hc

/-- A painted text without its sequences is the text. -/
theorem withoutSgr_paint {t : Text} (h : '\x1b' ∉ t) (s : Style) (u : Text) :
    withoutSgr (s.paint t ++ u) = t ++ withoutSgr u := by
  have hsequences : ∀ sequences : List Text,
      (∀ p ∈ sequences, ∀ c ∈ p, isSgrParameter c = true) → ∀ u,
      withoutSgr ((sequences.map sgr).flatten ++ u) = withoutSgr u := by
    intro sequences hall u
    induction sequences with
    | nil => rfl
    | cons p sequences ih =>
      simp only [List.forall_mem_cons] at hall
      rw [List.map_cons, List.flatten_cons, List.append_assoc, Text.withoutSgr_sgr hall.1,
        ih hall.2]
  have hreset : ∀ c ∈ ['0'], isSgrParameter c = true := List.forall_mem_singleton.mpr rfl
  unfold paint
  split
  · exact Text.withoutSgr_append h u
  · next hparameters =>
    rw [List.append_assoc, List.append_assoc,
      hsequences _ fun p hp => isSgrParameter_of_mem hp,
      Text.withoutSgr_append h, Text.withoutSgr_sgr hreset]

end Style

/-! ## Styled text and reports -/

/-- Styled text for a terminal shows the bare text once its sequences are passed over. -/
theorem StyledText.withoutSgr_render_true {t : StyledText} (h : '\x1b' ∉ t.toText) :
    withoutSgr (t.render true) = t.render false := by
  obtain ⟨runs⟩ := t
  induction runs with
  | nil => rfl
  | cons r runs ih =>
    simp only [render, toText, if_true, Bool.false_eq_true, if_false, List.flatMap_cons,
      List.mem_append, not_or] at h ih ⊢
    rw [Style.withoutSgr_paint h.1, ih h.2]

theorem withoutSgr_trailerText {t : Text} (h : '\x1b' ∉ t) (u : Text) :
    withoutSgr (trailerText true t ++ u) = trailerText false t ++ withoutSgr u :=
  Style.withoutSgr_paint h trailerStyle u

theorem withoutSgr_causeLines {causes : List Text} (h : ∀ m ∈ causes, '\x1b' ∉ m) (depth : Nat) :
    withoutSgr (causeLines true depth causes) = causeLines false depth causes := by
  induction causes generalizing depth with
  | nil => rfl
  | cons cause causes ih =>
    simp only [List.forall_mem_cons] at h
    have hspaces : '\x1b' ∉ List.replicate (8 + 2 * depth) ' ' := by simp
    have hcause : '\x1b' ∉ "Caused by: ".toList ++ cause := by simp [h.1]
    have hend : withoutSgr ('\n' :: causeLines true (depth + 1) causes) =
        '\n' :: causeLines false (depth + 1) causes :=
      (Text.withoutSgr_append (t := ['\n']) (by decide) _).trans
        (congrArg ('\n' :: ·) (ih h.2 (depth + 1)))
    rw [causeLines, causeLines, List.append_assoc, Text.withoutSgr_append hspaces,
      withoutSgr_trailerText hcause, hend, List.append_assoc]

/-- A painted report shows the bare one once its sequences are passed over. -/
theorem withoutSgr_trailer {error : Text} {causes : List Text} (herror : '\x1b' ∉ error)
    (hcauses : ∀ m ∈ causes, '\x1b' ∉ m) :
    withoutSgr (trailer true error causes) = trailer false error causes := by
  have htext : '\x1b' ∉ "Error: ".toList ++ error := by simp [herror]
  have hend : withoutSgr ('\n' :: causeLines true 0 causes) = '\n' :: causeLines false 0 causes :=
    (Text.withoutSgr_append (t := ['\n']) (by decide) _).trans
      (congrArg ('\n' :: ·) (withoutSgr_causeLines hcauses 0))
  rw [trailer, trailer, withoutSgr_trailerText htext, hend]

end LogLine
