-- SUMMARY: What the library reports about its own work.
import LogLine.Event.Level

/-!
# Diagnostics

While it works the library reports a few things of its own: a new layout, and
settings it could not use as given.
-/

namespace LogLine

/-- The part of the library that reports. -/
inductive Reporter where
  | layout | clock | settings
deriving DecidableEq, Repr

/-- A report of the library about its own work. -/
structure Diagnostic where
  level : Level
  reporter : Reporter
  text : Text
deriving DecidableEq, Repr

end LogLine
