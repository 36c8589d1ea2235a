-- SUMMARY: The columns of a line: width, alignment and templates.
import LogLine.Text.Basic

/-!
# Fields

A field describes a column: the value it shows, the cells it takes, and two
templates with a placeholder for the value. The style template is evaluated
within the column's room; the decoration goes around the fitted value, so its
own text is taken out of the room.
-/

namespace LogLine

/-- Where a value stands in its column. -/
inductive Alignment where
  /-- Padded on the right. -/
  | left
  /-- Padded on the left with half of the free cells. -/
  | center
  /-- Padded on the left. -/
  | right
deriving DecidableEq, Repr

namespace Alignment

def name : Alignment → Text
  | .left => "left".toList
  | .center => "center".toList
  | .right => "right".toList

/-- The alignment of a lower-case name. -/
def ofName? (t : Text) : Option Alignment := [left, center, right].find? (·.name = t)

end Alignment

/-- The value a field shows. -/
inductive FieldKind where
  | dateTime | threadName | threadId | level | shortName | name | message | markers
  /-- Nothing: the field is a spacer. -/
  | custom
deriving DecidableEq, Repr

namespace FieldKind

/-- The kinds that have a name of their own. -/
def known : List FieldKind :=
  [.dateTime, .threadName, .threadId, .level, .shortName, .name, .message, .markers]

def toName : FieldKind → Text
  | .dateTime => "date-time".toList
  | .threadName => "thread-name".toList
  | .threadId => "thread-id".toList
  | .level => "level".toList
  | .shortName => "short-name".toList
  | .name => "name".toList
  | .message => "message".toList
  | .markers => "markers".toList
  | .custom => "custom".toList

def ofName (t : Text) : FieldKind := (known.find? (·.toName = t)).getD .custom

end FieldKind

def placeholder (name : Text) : Text := '$' :: '{' :: name ++ ['}']

/-- A column of a line. -/
structure Field where
  name : Text
  /-- The cells the column takes; zero for a column that takes what is left. -/
  width : Nat := 0
  align : Alignment := .left
  style : Text := LogLine.placeholder name
  decoration : Text := LogLine.placeholder name
deriving DecidableEq, Repr

namespace Field

/-- Whether the column takes what is left. -/
def isAuto (f : Field) : Bool := f.width == 0

/-- The value the field shows. -/
def kind (f : Field) : FieldKind := .ofName f.name

/-- What the field's templates have in place of the value. -/
def placeholder (f : Field) : Text := LogLine.placeholder f.name

end Field

end LogLine
