-- SUMMARY: Reading markup character by character into literal characters with their pens.
import LogLine.Style.Sheet

/-!
# Reading markup

The reader takes markup one character at a time. It remembers whether it is in
the middle of an escape or of a scope's name, and the pens of the open scopes.
Every literal character comes out as a glyph, with the pen it is written with.

A scope opens with `@` and a brace, its name, and a space; it closes with a
brace. A backslash makes the next character literal. A scope without a body is
dropped, and so are a brace that closes nothing and a name that never ends.
-/

namespace LogLine

/-! ## Pens and glyphs -/

/-- What characters are written with: the spec of the scopes around them and its style. -/
structure Pen where
  spec : Text
  style : Style
deriving DecidableEq

/-- A character and the pen it is written with. -/
structure Glyph where
  char : Char
  pen : Pen
deriving DecidableEq

namespace Pen

/-- The pen outside every scope. -/
def default : Pen := ⟨[], .default⟩

/-- The pen inside a further scope: its spec adds the scope's name, and its style is resolved for
    the whole spec. -/
def inside (resolver : Resolver) (name : Text) (outer : Pen) : Pen :=
  let spec := if outer.spec = [] then name else outer.spec ++ ',' :: name
  ⟨spec, resolver spec⟩

end Pen

/-! ## The reader -/

namespace Markup

/-- Where in the markup a reader stands. -/
inductive Mode where
  /-- Between characters of text. -/
  | text
  /-- After a backslash. -/
  | escape
  /-- After an at sign, which opens a scope if a brace follows. -/
  | afterAt
  /-- In the name of a scope, with the characters read so far, the latest first. -/
  | name (read : Text)
deriving DecidableEq

/-- A reader in the middle of markup. -/
structure Reader where
  mode : Mode := .text
  /-- The pens of the open scopes, the innermost first. -/
  pens : List Pen := []
deriving DecidableEq

namespace Reader

/-- The pen of the innermost open scope. -/
def pen (r : Reader) : Pen := r.pens.head?.getD .default

def glyph (r : Reader) (c : Char) : Glyph := ⟨c, r.pen⟩

def feedText (r : Reader) (c : Char) : Reader × List Glyph :=
  match c with
  | '\\' => ({ r with mode := .escape }, [])
  | '@' => ({ r with mode := .afterAt }, [])
  | '\x7d' => ({ r with mode := .text, pens := r.pens.tail }, [])
  | _ => ({ r with mode := .text }, [r.glyph c])

/-- Takes a character of a scope's name. Spaces before the name are passed over; the space after
    it opens the scope. -/
def feedName (resolver : Resolver) (r : Reader) (read : Text) (c : Char) : Reader :=
  match c, read with
  | ' ', [] => r
  | ' ', _ => { r with mode := .text, pens := r.pen.inside resolver read.reverse :: r.pens }
  | '\x7d', _ => { r with mode := .text }
  | _, _ => { r with mode := .name (c :: read) }

/-- Takes the next character of the markup. -/
def feed (resolver : Resolver) (r : Reader) (c : Char) : Reader × List Glyph :=
  match r.mode with
  | .text => r.feedText c
  | .escape => ({ r with mode := .text }, [r.glyph c])
  | .afterAt =>
    if c = '\x7b' then ({ r with mode := .name [] }, [])
    else
      let (next, glyphs) := r.feedText c
      (next, r.glyph '@' :: glyphs)
  | .name read => (r.feedName resolver read c, [])

def feedAll (resolver : Resolver) : Reader → Text → Reader × List Glyph
  | r, [] => (r, [])
  | r, c :: rest =>
    let (next, glyphs) := r.feed resolver c
    let (last, more) := feedAll resolver next rest
    (last, glyphs ++ more)

/-- The characters that turn out literal because the markup ends here. -/
def finish (r : Reader) : List Glyph :=
  match r.mode with
  | .escape => [r.glyph '\\']
  | .afterAt => [r.glyph '@']
  | _ => []

end Reader

/-- The literal characters of a markup, with their pens. -/
def glyphs (resolver : Resolver) (markup : Text) : List Glyph :=
  let (reader, glyphs) := Reader.feedAll resolver {} markup
  glyphs ++ reader.finish

end Markup

end LogLine
