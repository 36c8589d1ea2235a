-- SUMMARY: Evaluating markup into styled text under a limit on its length.
import LogLine.Markup.Escape
import LogLine.Markup.Reader

/-!
# Expressions

An expression is a way to evaluate markup: a resolver for the styles, and
optionally a limit on the characters it may produce. Markup that would produce
more is cut, and the ellipsis takes the place of the characters that had to
make room for it.

The limit counts characters, whatever their width, while the room for the
ellipsis is its width in cells. Characters that may have to make room are held
back until it is clear whether they stay.
-/

namespace LogLine

/-- A way to evaluate markup. -/
structure Expression where
  resolver : Resolver := .none
  /-- The number of characters an evaluation may produce. -/
  limit : Option Nat := none
  ellipsis : Text := ['.', '.']
  hyphen : SoftHyphen := .latin1

namespace Expression

/-- The expression with a limit; zero takes the limit away. -/
def limited (e : Expression) (n : Nat) : Expression :=
  { e with limit := if n = 0 then none else some n }

def unlimited (e : Expression) : Expression := { e with limit := none }

end Expression

/-! ## Writing under a limit -/

/-- Styled text being written under a limit. -/
structure Writer where
  /-- What stays whatever comes next. -/
  out : StyledText
  /-- What stays unless the limit is passed. -/
  held : StyledText := {}
  /-- The characters taken so far. -/
  count : Nat := 0
  /-- Whether the limit was passed. -/
  stopped : Bool := false

namespace Writer

/-- Whether the character at an index has to make room for an ellipsis that a limit calls for. An
    empty ellipsis needs no room. -/
def holdsBack (e : Expression) (limit index : Nat) : Bool :=
  !e.ellipsis.isEmpty && limit - e.ellipsis.width e.hyphen ≤ index

def add (t : StyledText) (g : Glyph) : StyledText := t.push [g.char] g.pen.spec g.pen.style

/-- Takes one glyph: it is written, held back, or replaced by the ellipsis together with
    everything held back before it. After that nothing is taken any more. -/
def write (e : Expression) (w : Writer) (g : Glyph) : Writer :=
  if w.stopped then w
  else
    match e.limit with
    | none => { w with out := add w.out g, count := w.count + 1 }
    | some limit =>
      if w.count = limit then
        { w with out := w.out.push e.ellipsis g.pen.spec g.pen.style, held := {}, stopped := true }
      else if holdsBack e limit w.count then
        { w with held := add w.held g, count := w.count + 1 }
      else
        { w with out := add w.out g, count := w.count + 1 }

/-- The text when nothing comes any more. -/
def finish (w : Writer) : StyledText := w.out ++ w.held

end Writer

/-! ## Evaluation -/

namespace Expression

/-- Evaluates markup at the end of a text. The limit counts the characters of this markup. -/
def evaluateInto (e : Expression) (out : StyledText) (markup : Text) : StyledText :=
  ((Markup.glyphs e.resolver markup).foldl (Writer.write e) { out }).finish

def evaluate (e : Expression) (markup : Text) : StyledText := e.evaluateInto {} markup

end Expression

/-- Evaluates markup without styles and without a limit. -/
def Markup.evaluate (markup : Text) : StyledText := ({} : Expression).evaluate markup

end LogLine
