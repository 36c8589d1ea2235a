-- SUMMARY: Events, and the short name of a logger.
import LogLine.Event.Level

/-!
# Events

An event is one call of a logger: its level, the logger's name, a message
pattern with arguments, markers, and perhaps an error with its causes.
-/

namespace LogLine

/-- One call of a logger. -/
structure Event where
  level : Level
  logger : Text
  pattern : Text
  /-- The arguments, as they are shown. -/
  args : List Text := []
  markers : List Text := []
  /-- The messages of the error and of its causes in turn; empty without an error. -/
  errors : List Text := []
deriving DecidableEq, Repr

/-- What follows the last separator of a rest, or `best` if there is none. -/
def shortNameFrom (best : Text) : Text → Text
  | [] => best
  | '.' :: rest => shortNameFrom rest rest
  | ':' :: ':' :: rest => shortNameFrom rest (':' :: rest)
  | _ :: rest => shortNameFrom best rest

/-- The last segment of a logger's name, where dots and double colons separate segments. -/
def shortName (logger : Text) : Text := shortNameFrom logger logger

/-- The last segment of the logger's name. -/
def Event.shortName (e : Event) : Text := LogLine.shortName e.logger

end LogLine
