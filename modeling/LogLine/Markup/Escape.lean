-- SUMMARY: Escaped text, and styled text written back as markup.
import LogLine.Markup.Styled

/-!
# Writing markup

Four characters mean something in markup; a backslash before any of them makes
it literal. Styled text is written back as a scope per run, so that reading the
result inside another template gives the same runs below the template's scopes.
-/

namespace LogLine

namespace Markup

/-- Whether a character means something in markup. -/
def isSpecial (c : Char) : Bool := c == '\\' || c == '@' || c == '\x7b' || c == '\x7d'

/-- Markup for a literal text. -/
def escape (t : Text) : Text := t.flatMap fun c => if isSpecial c then ['\\', c] else [c]

/-- Markup for a text inside a scope. -/
def scope (name body : Text) : Text := '@' :: '\x7b' :: name ++ ' ' :: body ++ ['\x7d']

end Markup

def Run.toMarkup (r : Run) : Text :=
  if r.isDefault then Markup.escape r.text else Markup.scope r.spec (Markup.escape r.text)

def StyledText.toMarkup (t : StyledText) : Text := t.runs.flatMap Run.toMarkup

end LogLine
