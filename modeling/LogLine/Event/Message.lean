-- SUMMARY: Message patterns and their arguments.
import LogLine.Layout.Field
import LogLine.Markup.Escape

/-!
# Messages

A message is a pattern with a pair of braces for each argument, filled from
left to right. One backslash before the braces makes them literal; of two, one
is dropped and the braces stand for an argument. Braces without an argument
left stay as they are, and surplus arguments are dropped.
-/

namespace LogLine

inductive MessagePart where
  | literal (text : Text)
  | argument
deriving DecidableEq, Repr

namespace Message

/-- The parts that a pair of braces ends, given the text before it, the latest character first. -/
def close : Text → List MessagePart
  | '\\' :: '\\' :: before => [.literal ('\\' :: before).reverse, .argument]
  | '\\' :: before => [.literal (before.reverse ++ ['{', '}'])]
  | before => [.literal before.reverse, .argument]

/-- The parts of a pattern, after some text that was read since the last pair of braces, the
    latest character first. -/
def partsAfter : Text → Text → List MessagePart
  | before, [] => [.literal before.reverse]
  | before, '{' :: '}' :: rest => close before ++ partsAfter [] rest
  | before, c :: rest => partsAfter (c :: before) rest

def parts (pattern : Text) : List MessagePart := partsAfter [] pattern

/-- The markup of an argument, in the parameter style if there is one. -/
def argument (style : Option Text) (value : Text) : Text :=
  match style with
  | some style => Text.replace (placeholder "arg".toList) (Markup.escape value) style
  | none => Markup.escape value

/-- The markup of the parts with their arguments. -/
def fill (style : Option Text) : List MessagePart → List Text → Text
  | [], _ => []
  | .literal text :: parts, args => Markup.escape text ++ fill style parts args
  | .argument :: parts, [] => Markup.escape ['{', '}'] ++ fill style parts []
  | .argument :: parts, arg :: args => argument style arg ++ fill style parts args

def toMarkup (pattern : Text) (args : List Text) (style : Option Text) : Text :=
  fill style (parts pattern) args

/-- The pattern whose message is a given text. -/
def patternOf (message : Text) : Text := Text.replace ['{', '}'] ['\\', '{', '}'] message

end Message

end LogLine
