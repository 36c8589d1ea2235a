-- SUMMARY: How the date field shows a clock reading: elapsed time, a pattern or a preset.
import LogLine.Calendar.Pattern
import LogLine.Event.Diagnostic

/-!
# Date formats

A clock reading is shown as the milliseconds since the start, by a pattern, or
by a preset that stands for a pattern. Whatever cannot be shown by its pattern
is shown as elapsed time instead.
-/

namespace LogLine

/-- What a clock shows. -/
structure Reading where
  now : Moment
  /-- Microseconds since the start. -/
  elapsed : Nat
deriving DecidableEq, Repr

/-- The parts of a moment that a preset shows. -/
inductive DateParts where
  | date | time | dateAndTime
deriving DecidableEq, Repr

/-- How much of them a preset shows. -/
inductive DateLength where
  | short | medium | long | full
deriving DecidableEq, Repr

/-- How a clock reading is shown. -/
inductive DateFormat where
  /-- The milliseconds since the start. -/
  | elapsed
  | pattern (pattern : Text)
  | preset (parts : DateParts) (length : DateLength)
deriving DecidableEq, Repr

namespace DateParts

/-- The parts of a name in any case, with dashes or underscores, whatever blanks are around it. -/
def ofText? (t : Text) : Option DateParts :=
  let name := Text.replace ['-'] ['_'] (Text.upper (Text.trim t))
  if name = "DATE".toList then some .date
  else if name = "TIME".toList then some .time
  else if name = "DATE_TIME".toList ∨ name = "DATETIME".toList then some .dateAndTime
  else none

/-- What is wrong with a name that stands for no parts. -/
def unknownMessage (t : Text) : Text := "unknown date/time type '".toList ++ t ++ ['\'']

end DateParts

namespace DateLength

def datePattern : DateLength → Text
  | .short => "%-m/%-d/%y".toList
  | .medium => "%b %-d, %Y".toList
  | .long => "%B %-d, %Y".toList
  | .full => "%A, %B %-d, %Y".toList

def timePattern : DateLength → Text
  | .short => "%-I:%M %p".toList
  | .medium => "%-I:%M:%S %p".toList
  | .long => "%-I:%M:%S %p %:z".toList
  | .full => "%-I:%M:%S %p %:z".toList

/-- The length of an upper-case name. -/
def ofName? (t : Text) : Option DateLength :=
  if t = "SHORT".toList then some .short
  else if t = "MEDIUM".toList then some .medium
  else if t = "LONG".toList then some .long
  else if t = "FULL".toList then some .full
  else none

end DateLength

namespace DateFormat

/-- The report about a text that is no pattern. -/
def badPattern (t : Text) : Diagnostic :=
  ⟨.warn, .clock, "bad date format '".toList ++ t ++ "'; using elapsed time".toList⟩

/-- The format that a configured text asks for: elapsed time, a preset of the given parts, or a
    pattern. What is none of these is reported, and elapsed time shown instead. -/
def ofText (t : Text) (parts : DateParts) : DateFormat × List Diagnostic :=
  if t = "TIMESTAMP".toList then (.elapsed, [])
  else
    match DateLength.ofName? t with
    | some length => (.preset parts length, [])
    | none =>
      if .malformed ∈ DateItem.ofPattern t then (.elapsed, [badPattern t]) else (.pattern t, [])

/-- The pattern by which a reading is shown, unless elapsed time is. -/
def pattern? : DateFormat → Option Text
  | .elapsed => none
  | .pattern p => some p
  | .preset parts length =>
    match parts with
    | .date => some length.datePattern
    | .time => some length.timePattern
    | .dateAndTime => some (length.datePattern ++ ", ".toList ++ length.timePattern)

/-- The milliseconds since the start. -/
def elapsedText (r : Reading) : Text := Text.ofNat (r.elapsed / 1000)

def text (f : DateFormat) (r : Reading) : Text :=
  (f.pattern?.bind fun p => DateItem.textOf? r.now (DateItem.ofPattern p)).getD (elapsedText r)

end DateFormat

end LogLine
