-- SUMMARY: Severity levels and the threshold below which events are dropped.
import LogLine.Text.Blank

/-!
# Levels

An event has one of five levels, from the most to the least severe. A
threshold admits the levels up to one of them, or none at all.
-/

namespace LogLine

/-- How severe an event is, the most severe first. -/
inductive Level where
  | error | warn | info | debug | trace
deriving DecidableEq, Repr

namespace Level

/-- Every level, the most severe first. -/
def all : List Level := [.error, .warn, .info, .debug, .trace]

/-- The level's place in the order, counted from the most severe. -/
def rank : Level → Nat
  | .error => 1
  | .warn => 2
  | .info => 3
  | .debug => 4
  | .trace => 5

/-- The level's name, in upper case. -/
def name : Level → Text
  | .error => "ERROR".toList
  | .warn => "WARN".toList
  | .info => "INFO".toList
  | .debug => "DEBUG".toList
  | .trace => "TRACE".toList

/-- The level of a name in any case, whatever blanks are around it. -/
def ofText? (t : Text) : Option Level := all.find? (·.name = Text.upper (Text.trim t))

end Level

/-- The least severe level that is let through, if any is. -/
structure Threshold where
  last : Option Level
deriving DecidableEq, Repr

namespace Threshold

/-- The threshold that lets nothing through. -/
def off : Threshold := ⟨none⟩

/-- The threshold that lets a level and everything more severe through. -/
def upTo (l : Level) : Threshold := ⟨some l⟩

/-- The place of the last level in the order, or a place before all of them. -/
def rank (t : Threshold) : Nat := t.last.elim 0 Level.rank

/-- Whether a level is let through. -/
def admits (t : Threshold) (l : Level) : Bool := t.last.any (l.rank ≤ ·.rank)

/-- Whether a level is kept out, being less severe than the last one. -/
def excludes (t : Threshold) (l : Level) : Bool := t.rank < l.rank

/-- The name of the last level, or that of nothing at all. -/
def name (t : Threshold) : Text := t.last.elim "OFF".toList Level.name

/-- The threshold of a name in any case, whatever blanks are around it. -/
def ofText? (t : Text) : Option Threshold :=
  if Text.upper (Text.trim t) = "OFF".toList then some off else (Level.ofText? t).map upTo

end Threshold

end LogLine
