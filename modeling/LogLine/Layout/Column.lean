-- SUMMARY: Fitting a value into its column.
import LogLine.Layout.Field
import LogLine.Markup.Expression

/-!
# Columns

A value is markup. It goes into the field's style template, which may in turn
go into the template of the event's level; the result is cut to the column's
room, padded to it, and put into the decoration.
-/

namespace LogLine.Field

/-- The cells that the decoration's own text takes. -/
def decorationWidth (e : Expression) (f : Field) : Nat :=
  (e.unlimited.evaluate (Text.replace f.placeholder [] f.decoration)).width e.hyphen

/-- The cells for the value: what the decoration leaves of the column, and one at least. -/
def room (e : Expression) (f : Field) (allocated : Nat) : Nat :=
  max (allocated - f.decorationWidth e) 1

/-- The field's style template, inside the template of the level if there is one. -/
def template (f : Field) (level : Option Text) : Text :=
  match level with
  | some level => Text.replace (LogLine.placeholder "text".toList) f.style level
  | none => f.style

/-- The value in its style, cut to the column's room. -/
def fit (e : Expression) (f : Field) (value : Text) (allocated : Nat) (level : Option Text) :
    StyledText :=
  (e.limited (f.room e allocated)).evaluate (Text.replace f.placeholder value (f.template level))

/-- The value padded with spaces to a width. In the middle it gets half of them, rounded down,
    and all of them before it. -/
def pad (hyphen : SoftHyphen) (align : Alignment) (width : Nat) (value : StyledText) :
    StyledText :=
  let missing := width - value.width hyphen
  let spaces := fun n => StyledText.plain (List.replicate n ' ')
  match align with
  | .left => value ++ spaces missing
  | .right => spaces missing ++ value
  | .center => spaces (missing / 2) ++ value

/-- The decoration around the fitted and padded value, as markup. -/
def decorated (e : Expression) (f : Field) (value : Text) (allocated : Nat)
    (level : Option Text) : Text :=
  let padded := pad e.hyphen f.align (f.room e allocated) (f.fit e value allocated level)
  Text.replace f.placeholder padded.toMarkup f.decoration

/-- Adds the column to a line, after a gap unless it is the first. -/
def render (e : Expression) (gap : Nat) (f : Field) (value : Text) (allocated : Nat)
    (level : Option Text) (first : Bool) (line : StyledText) : StyledText :=
  let line := if first then line else line.push (List.replicate gap ' ') [] .default
  e.unlimited.evaluateInto line (f.decorated e value allocated level)

end LogLine.Field
