-- SUMMARY: The text of a message, whatever its pattern and its arguments hold.
import LogLine.Event.Message
import LogLine.Proofs.Markup.Template

/-!
# The text of a message

The markup of a message shows its pattern with the arguments in place of the
braces, character by character. What means something in markup was escaped, and a
parameter style of nested scopes shows nothing of its own.
-/

namespace LogLine.Message

open Markup (IsName IsNest Reads Shows nest pensInside replace_nest)

/-! ## Texts -/

/-- The text of the parts with their arguments. -/
def textOf : List MessagePart → List Text → Text
  | [], _ => []
  | .literal text :: parts, args => text ++ textOf parts args
  | .argument :: parts, [] => ['\x7b', '\x7d'] ++ textOf parts []
  | .argument :: parts, arg :: args => arg ++ textOf parts args

/-- The text of a message. -/
def text (pattern : Text) (args : List Text) : Text := textOf (parts pattern) args

/-- A stretch of a message's text, with where it comes from. -/
inductive Piece where
  /-- From the pattern, or braces that no argument was left for. -/
  | own (text : Text)
  | argument (text : Text)
deriving DecidableEq, Repr

namespace Piece

def text : Piece → Text
  | own text => text
  | argument text => text

/-- The glyphs of a piece, where arguments have a pen of their own. -/
def glyphs (pen inner : Pen) : Piece → List Glyph
  | own text => pen.write text
  | argument text => inner.write text

theorem map_char_glyphs (pen inner : Pen) (p : Piece) :
    (p.glyphs pen inner).map Glyph.char = p.text := by
  cases p with
  | own text => exact pen.map_char_write text
  | argument text => exact inner.map_char_write text

theorem glyphs_self (pen : Pen) (p : Piece) : p.glyphs pen pen = pen.write p.text := by
  cases p <;> rfl

end Piece

/-- The pieces that the parts become with their arguments. -/
def pieces : List MessagePart → List Text → List Piece
  | [], _ => []
  | .literal text :: parts, args => .own text :: pieces parts args
  | .argument :: parts, [] => .own ['\x7b', '\x7d'] :: pieces parts []
  | .argument :: parts, arg :: args => .argument arg :: pieces parts args

theorem textOf_eq (parts : List MessagePart) (args : List Text) :
    textOf parts args = (pieces parts args).flatMap Piece.text := by
  fun_induction pieces parts args with
  | case1 args => rfl
  | case2 text parts args ih => rw [textOf, ih, List.flatMap_cons, Piece.text]
  | case3 parts ih => rw [textOf, ih, List.flatMap_cons, Piece.text]
  | case4 parts arg args ih => rw [textOf, ih, List.flatMap_cons, Piece.text]

/-! ## Markup -/

variable {resolver : Resolver} {style : Option Text} {inner : Pen → Pen}

/-- Where the pen is `p`, the style writes arguments with the pen `inner p`, whatever they are. -/
def ArgumentPen (resolver : Resolver) (style : Option Text) (inner : Pen → Pen) : Prop :=
  ∀ value, Reads resolver (argument style value) fun p => (inner p).write value

theorem argumentPen_none (resolver : Resolver) : ArgumentPen resolver none id :=
  fun value => .escape value

theorem argumentPen_nest {names : List Text} (hnames : ∀ n ∈ names, IsName n)
    (resolver : Resolver) :
    ArgumentPen resolver (some (nest names (placeholder "arg".toList)))
      (pensInside resolver names) := by
  intro value
  rw [argument, replace_nest hnames]
  exact (Reads.escape value).nest hnames

theorem reads_fill (h : ArgumentPen resolver style inner) (parts : List MessagePart)
    (args : List Text) :
    Reads resolver (fill style parts args) fun p =>
      (pieces parts args).flatMap (Piece.glyphs p (inner p)) := by
  fun_induction fill style parts args with
  | case1 args => exact .nil
  | case2 text parts args ih => exact (Reads.escape text).append ih
  | case3 parts ih => exact (Reads.escape _).append ih
  | case4 parts arg args ih => exact (h arg).append ih

/-- The markup of a message shows its text, in a parameter style or in none. -/
theorem shows_toMarkup (hstyle : ∀ template ∈ style, IsNest "arg".toList template)
    (pattern : Text) (args : List Text) :
    Shows resolver (toMarkup pattern args style) (text pattern args) := by
  have hpen : ∃ inner, ArgumentPen resolver style inner := by
    cases style with
    | none => exact ⟨_, argumentPen_none resolver⟩
    | some template =>
      obtain ⟨names, hnames, rfl⟩ := hstyle template rfl
      exact ⟨_, argumentPen_nest hnames resolver⟩
  obtain ⟨inner, hpen⟩ := hpen
  refine ⟨_, reads_fill hpen (parts pattern) args, fun p => ?_⟩
  rw [text, textOf_eq, List.map_flatMap]
  exact List.flatMap_congr fun piece _ => piece.map_char_glyphs p (inner p)

end LogLine.Message
