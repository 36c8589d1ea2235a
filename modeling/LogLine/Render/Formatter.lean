-- SUMMARY: Formatters: what turns a message pattern and its arguments into markup.
import LogLine.Event.Basic
import LogLine.Event.Message

/-!
# Formatters

A formatter gives the markup of a message. The usual one fills the pattern's
braces, but a formatter may do other things on the way: it may ask for another
event to be rendered, look whether its thread is rendering, or break off.
-/

namespace LogLine

/-- A finished line, and the report that follows it if there is an error. Every line of a report
    ends with a line feed; the line itself has none. -/
structure Line where
  text : Text
  trailer : Option Text := none
deriving DecidableEq, Repr

/-- What a formatter does, step by step. Asking for another event to be rendered does not give a
    line while its thread is rendering. -/
inductive Formatting where
  /-- Ends with the markup of the message. -/
  | done (markup : Text)
  /-- Breaks off. -/
  | fail
  /-- Asks for another event to be rendered, and goes on with the line or without one. -/
  | render (event : Event) (next : Option Line → Formatting)
  /-- Looks whether the thread is rendering. -/
  | look (next : Bool → Formatting)

/-- What turns a pattern, its arguments and the parameter style into markup. -/
abbrev Formatter := (pattern : Text) → (args : List Text) → (style : Option Text) → Formatting

namespace Formatter

/-- The formatter that fills the pattern's braces. -/
def braces : Formatter := fun pattern args style => .done (Message.toMarkup pattern args style)

/-- The formatter that takes the pattern for markup. -/
def raw : Formatter := fun pattern _ _ => .done pattern

end Formatter

/-- The markup that a formatter ends with when every event it asks for is refused and its thread is
    rendering, or `none` if it breaks off. -/
def Formatting.whileRendering : Formatting → Option Text
  | .done markup => some markup
  | .fail => none
  | .render _ next => (next none).whileRendering
  | .look next => (next true).whileRendering

end LogLine
