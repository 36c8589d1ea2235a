-- SUMMARY: What stands in a message for each pair of braces, and that only arguments are coloured.
import LogLine.Proofs.Event.Message
import LogLine.Proofs.Event.Split

/-!
# Interpolation

A message is told from its split pattern: the backslashes before a pair of braces decide
whether the pair is literal or the next argument takes its place. Evaluating the markup of
a message shows this text. With a parameter style the text is the same, and exactly the
characters of the arguments have the style's spec, whatever characters they are.
-/

namespace LogLine.Message

open Markup (IsName Reads nest pensInside_default)

/-! ## Messages of split patterns -/

namespace Split

/-- What pairs of braces become, each with the text before it. After a single backslash, which goes,
    a pair is literal. Otherwise the next argument takes its place if one is left, and one of the
    backslashes goes if there are any. -/
def filled : List Spot → List Text → List Piece
  | [], _ => []
  | s :: spots, args =>
    if s.slashes = 1 then .own (s.before ++ braces) :: filled spots args
    else
      .own (s.before ++ List.replicate (s.slashes - 1) '\\') ::
        args.head?.elim (.own braces) .argument :: filled spots args.tail

/-- The message of a split pattern, in pieces. -/
def pieces (s : Split) (args : List Text) : List Piece := filled s.spots args ++ [.own s.rest]

/-- The message of a split pattern. -/
def text (s : Split) (args : List Text) : Text := (s.pieces args).flatMap Piece.text

/-- The pieces of a message are those of its split pattern. -/
theorem pieces_pattern (s : Split) (args : List Text) :
    Message.pieces (parts s.pattern) args = s.pieces args := by
  rw [parts_pattern, pieces]
  induction s.spots generalizing args with
  | nil => rfl
  | cons spot spots ih =>
    rw [List.flatMap_cons, filled, Spot.parts]
    by_cases hslashes : spot.slashes = 1
    · rw [if_pos hslashes, if_pos hslashes]
      exact congrArg (List.cons _) (ih args)
    · rw [if_neg hslashes, if_neg hslashes]
      cases args with
      | nil => exact congrArg (fun more => Piece.own _ :: Piece.own braces :: more) (ih [])
      | cons arg args =>
        exact congrArg (fun more => Piece.own _ :: Piece.argument arg :: more) (ih args)

theorem text_pattern (s : Split) (args : List Text) :
    Message.text s.pattern args = s.text args := by
  rw [Message.text, textOf_eq, pieces_pattern, text]

end Split

/-! ## Markup -/

/-- The markup of a message shows its pieces, the arguments with the pen of the parameter style. -/
theorem reads_toMarkup {resolver : Resolver} {style : Option Text} {inner : Pen → Pen}
    (h : ArgumentPen resolver style inner) (s : Split) (args : List Text) :
    Reads resolver (toMarkup s.pattern args style) fun p =>
      (s.pieces args).flatMap (Piece.glyphs p (inner p)) := by
  have hreads := reads_fill h (parts s.pattern) args
  rwa [s.pieces_pattern] at hreads

/-- Without a parameter style, a message is plain text. -/
theorem evaluate_toMarkup_none (e : Expression) (s : Split) (args : List Text) :
    e.unlimited.evaluate (toMarkup s.pattern args none) = .plain (s.text args) := by
  have hreads := reads_toMarkup (argumentPen_none e.resolver) s args
  have hpieces : (s.pieces args).flatMap (Piece.glyphs .default .default) =
      Pen.default.write (s.text args) := by
    rw [Split.text, Pen.write, List.map_flatMap]
    exact List.flatMap_congr fun piece _ => piece.glyphs_self .default
  rw [StyledText.plain_eq_ofGlyphs, ← hpieces]
  exact e.evaluate_of_reads hreads

/-- Every pattern is split in exactly one way, and its message is told from the split: evaluating
    the markup gives the text, outside every scope. -/
theorem evaluate_interpolated (e : Expression) (pattern : Text) (args : List Text) :
    (∃! s : Split, s.pattern = pattern) ∧
      ∀ s : Split, s.pattern = pattern →
        e.unlimited.evaluate (toMarkup pattern args none) = .plain (s.text args) := by
  refine ⟨?_, ?_⟩
  · obtain ⟨s, hs⟩ := Split.pattern_surjective pattern
    exact ⟨s, hs, fun s' hs' => Split.pattern_injective (hs'.trans hs.symm)⟩
  · rintro s rfl
    exact evaluate_toMarkup_none e s args

/-- A directory after two backslashes, braces after one, and more braces than arguments. -/
def backslashed : Split where
  spots := [⟨"C:".toList, 2, by decide, by decide⟩, ⟨" ".toList, 1, by decide, by decide⟩,
    ⟨[], 0, by decide, by decide⟩, ⟨"\x7b".toList, 0, by decide, by decide⟩]
  rest := "\x7d".toList
  no_braces := by decide

theorem evaluate_interpolated_backslashed :
    ({} : Expression).unlimited.evaluate
        (toMarkup "C:\\\\\x7b\x7d \\\x7b\x7d\x7b\x7d\x7b\x7b\x7d\x7d".toList
          ["\\@\x7bdir".toList, "\x7b\x7d".toList] none) =
      .plain "C:\\\\@\x7bdir \x7b\x7d\x7b\x7d\x7b\x7b\x7d\x7d".toList :=
  ((evaluate_interpolated {} _ _).2 backslashed (by decide)).trans (by decide +kernel)

/-- A parameter style of nested scopes changes nothing in the text of a message. The characters of
    the arguments that are put in have the spec and the style of its scopes, and all other
    characters are outside every scope. -/
theorem parameterStyle_colours_arguments (e : Expression) {names : List Text}
    (hnames : ∀ n ∈ names, IsName n) (pattern : Text) (args : List Text) :
    let styled := e.unlimited.evaluate
      (toMarkup pattern args (some (nest names (placeholder "arg".toList))))
    styled.toText = (e.unlimited.evaluate (toMarkup pattern args none)).toText ∧
      ∃ s : Split, s.pattern = pattern ∧
        styled.glyphs =
          (s.pieces args).flatMap (Piece.glyphs .default (.within e.resolver names)) := by
  obtain ⟨s, rfl⟩ := Split.pattern_surjective pattern
  have hne : ∀ n ∈ names, n ≠ [] := fun n hn => (hnames n hn).ne_nil
  have hreads := reads_toMarkup (argumentPen_nest hnames e.resolver) s args
  have hglyphs : (e.unlimited.evaluate
      (toMarkup s.pattern args (some (nest names (placeholder "arg".toList))))).glyphs =
        (s.pieces args).flatMap (Piece.glyphs .default (.within e.resolver names)) := by
    rw [Expression.glyphs_evaluate, Expression.shown_unlimited, hreads.glyphs_eq,
      pensInside_default hne]
  refine ⟨?_, s, rfl, hglyphs⟩
  rw [evaluate_toMarkup_none, StyledText.toText_plain, Expression.toText_evaluate,
    ← Expression.glyphs_evaluate, hglyphs, List.map_flatMap, Split.text]
  exact List.flatMap_congr fun piece _ => piece.map_char_glyphs _ _

/-- Two pairs of braces, and a brace that closes nothing. -/
def unclosed : Split where
  spots := [⟨"a".toList, 0, by decide, by decide⟩, ⟨[], 0, by decide, by decide⟩]
  rest := "\x7d".toList
  no_braces := by decide

theorem parameterStyle_colours_unclosed :
    (({} : Expression).unlimited.evaluate (toMarkup "a\x7b\x7d\x7b\x7d\x7d".toList
        ["\x7d@\x7bu $\x7barg\x7d".toList]
        (some (nest ["s".toList, "t".toList] (placeholder "arg".toList))))).glyphs =
      Pen.default.write ['a'] ++
        (Pen.within .none ["s".toList, "t".toList]).write "\x7d@\x7bu $\x7barg\x7d".toList ++
          Pen.default.write "\x7b\x7d\x7d".toList := by
  obtain ⟨-, s, hs, hglyphs⟩ := @parameterStyle_colours_arguments {} ["s".toList, "t".toList]
    (by decide) unclosed.pattern ["\x7d@\x7bu $\x7barg\x7d".toList]
  obtain rfl := Split.pattern_injective hs
  exact hglyphs.trans (by decide +kernel)

/-! ## Messages without arguments -/

/-- Without arguments there is nothing that a parameter style could colour. -/
theorem fill_nil (style : Option Text) (parts : List MessagePart) :
    fill style parts [] = fill none parts [] := by
  induction parts with
  | nil => rfl
  | cons part parts ih =>
    cases part with
    | literal text => exact congrArg (Markup.escape text ++ ·) ih
    | argument => exact congrArg (Markup.escape braces ++ ·) ih

/-- Without arguments, one backslash goes before each pair: the one that was put there. -/
theorem Split.text_filled_escaped (spots : List Spot) :
    (filled (spots.map Spot.escaped) []).flatMap Piece.text = spots.flatMap Spot.pattern := by
  induction spots with
  | nil => rfl
  | cons spot spots ih =>
    rw [List.map_cons, List.flatMap_cons, ← ih, filled, Spot.pattern, Spot.lead]
    by_cases hslashes : spot.slashes = 0
    · have hsingle : spot.escaped.slashes = 1 := congrArg Nat.succ hslashes
      rw [if_pos hsingle, hslashes, List.replicate_zero, List.append_nil]
      rfl
    · have hmore : spot.escaped.slashes ≠ 1 := fun h => hslashes (Nat.succ.inj h)
      rw [if_neg hmore]
      simp only [List.flatMap_cons, Piece.text, List.append_assoc]
      rfl

theorem Split.text_escaped (s : Split) : s.escaped.text [] = s.pattern := by
  rw [text, pieces, List.flatMap_append, escaped, text_filled_escaped, pattern]
  exact congrArg (s.spots.flatMap Spot.pattern ++ ·) (List.append_nil s.rest)

/-- The pattern of a message shows the message, in any parameter style. -/
theorem evaluate_patternOf (e : Expression) (style : Option Text) (message : Text) :
    e.unlimited.evaluate (toMarkup (patternOf message) [] style) = .plain message := by
  obtain ⟨s, rfl⟩ := Split.pattern_surjective message
  have hstyle : toMarkup s.escaped.pattern [] style = toMarkup s.escaped.pattern [] none :=
    fill_nil style _
  rw [patternOf_pattern, hstyle, evaluate_toMarkup_none, s.text_escaped]

theorem text_patternOf (message : Text) : text (patternOf message) [] = message := by
  obtain ⟨s, rfl⟩ := Split.pattern_surjective message
  rw [patternOf_pattern, Split.text_pattern, s.text_escaped]

end LogLine.Message
