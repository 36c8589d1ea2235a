-- SUMMARY: A place in a YAML text, and the classes of its characters.
import LogLine.Text.Basic

/-!
# Cursors

A YAML text is read through a cursor that knows its line and column. Line
breaks of every form are first made line feeds, except the line and paragraph
separators, which stay what they are.
-/

namespace LogLine.Yaml

/-! ## Characters -/

/-- Whether a character may occur in a YAML text. -/
def isAllowed (c : Char) : Bool :=
  let u := c.toNat
  u == 0x09 || u == 0x0A || u == 0x0D || (0x20 ≤ u && u ≤ 0x7E) || u == 0x85 ||
    (0xA0 ≤ u && u ≤ 0xD7FF) || (0xE000 ≤ u && u ≤ 0xFFFD) || (0x10000 ≤ u && u ≤ 0x10FFFF)

/-- Whether a character ends a line, once line breaks are line feeds. -/
def isBreak (c : Char) : Bool := c == '\n' || c == '\u2028' || c == '\u2029'

/-- Whether a character separates words of a line. -/
def isBlank (c : Char) : Bool := c == ' ' || c == '\t'

/-- Whether a character may be part of an anchor or of a tag's handle. -/
def isWord (c : Char) : Bool := c.isAlphanum || c == '_' || c == '-'

/-- Whether a character separates the parts of a flow collection or encloses one. -/
def isFlowIndicator (c : Char) : Bool := [',', '[', ']', '{', '}'].contains c

/-- The text with every carriage return, with or without a line feed, and every next-line
    character made a line feed. -/
def withLineFeeds : Text → Text
  | [] => []
  | '\r' :: '\n' :: rest => '\n' :: withLineFeeds rest
  | c :: rest => (if c = '\r' ∨ c = '\u0085' then '\n' else c) :: withLineFeeds rest

/-! ## Cursors -/

/-- A place in a text: what follows it, and where it is. -/
structure Cursor where
  rest : Text
  /-- The number of bytes before it. -/
  index : Nat := 0
  line : Nat := 0
  column : Nat := 0
deriving Repr

namespace Cursor

/-- The place after the next character. -/
def next (c : Cursor) : Cursor :=
  match c.rest with
  | [] => c
  | x :: rest =>
    if isBreak x then ⟨rest, c.index + x.utf8Size, c.line + 1, 0⟩
    else ⟨rest, c.index + x.utf8Size, c.line, c.column + 1⟩

/-- The place a number of characters further on. -/
def skip : Nat → Cursor → Cursor
  | 0, c => c
  | n + 1, c => skip n c.next

/-- The place after the characters of a class that follow. -/
def skipWhile (p : Char → Bool) (c : Cursor) : Cursor := c.skip (c.rest.takeWhile p).length

def peek (c : Cursor) : Option Char := c.rest.head?

/-- The character a number of places on. -/
def peekAt (c : Cursor) (n : Nat) : Option Char := c.rest[n]?

def isAt (c : Cursor) (x : Char) : Bool := c.peek == some x

/-- Whether a blank, a line break or the end is a number of places on. -/
def endsAt (c : Cursor) (n : Nat) : Bool := (c.peekAt n).all fun x => isBlank x || isBreak x

/-- Whether a line break or the end comes next. -/
def atLineEnd (c : Cursor) : Bool := c.peek.all isBreak

/-- Whether a line begins with three of the given character and nothing more in that word. -/
def atMarker (c : Cursor) (x : Char) : Bool :=
  c.column == 0 && c.peekAt 0 == some x && c.peekAt 1 == some x && c.peekAt 2 == some x &&
    c.endsAt 3

/-- Whether a marker of a document's start or end comes next. -/
def atDocumentMarker (c : Cursor) : Bool := c.atMarker '-' || c.atMarker '.'

/-- The place after the comment that follows, if one does. -/
def skipComment (c : Cursor) : Cursor := if c.isAt '#' then c.skipWhile (!isBreak ·) else c

end Cursor

/-! ## Gaps -/

/-- What separates two words of a scalar that is folded into one line. -/
structure Gap where
  /-- The blanks, as long as the line is not broken. -/
  blanks : Text := []
  /-- The first line break. -/
  first : Option Char := none
  /-- The line breaks after the first. -/
  more : Text := []
deriving Repr

namespace Gap

/-- What stands for the gap in the folded text: the blanks of an unbroken line, a space for one
    line feed, and otherwise the line breaks, the first of them only if it is no line feed. -/
def fold (g : Gap) : Text :=
  match g.first with
  | none => g.blanks
  | some '\n' => if g.more = [] then [' '] else g.more
  | some x => x :: g.more

/-- The gap with one more character, a blank or a line break. -/
def add (g : Gap) (x : Char) : Gap :=
  if isBlank x then
    if g.first.isSome then g else { g with blanks := g.blanks ++ [x] }
  else if g.first.isSome then { g with more := g.more ++ [x] }
  else { g with first := some x }

end Gap

end LogLine.Yaml
