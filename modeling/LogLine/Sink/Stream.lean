-- SUMMARY: Where finished lines go: memory, or a stream that may fill up.
import LogLine.Render.Formatter
import LogLine.Text.Utf8

/-!
# Sinks

A sink takes finished lines. A line is written with a line feed after it and
its report after that. Memory takes every line; a stream may have room for so
many bytes only, takes what fits and then fails.
-/

namespace LogLine

/-- The parts of a line that are written one after the other. -/
def Line.parts (l : Line) : List Text := [l.text, ['\n']] ++ l.trailer.toList

/-- Everything that is written for a line. -/
def Line.record (l : Line) : Text := l.parts.flatten

/-! ## Memory -/

/-- Lines kept in memory. -/
structure Memory where
  contents : Text := []
deriving DecidableEq, Repr

namespace Memory

def write (m : Memory) (l : Line) : Memory := ⟨m.contents ++ l.record⟩

/-- The lines of what was written. -/
def lines (m : Memory) : List Text := m.contents.lines

end Memory

/-! ## Streams -/

/-- A stream of bytes. -/
structure Stream where
  /-- The number of bytes that it takes in all, if that is limited. -/
  capacity : Option Nat := none
  bytes : List UInt8 := []
  /-- How often it was flushed. -/
  flushes : Nat := 0
deriving DecidableEq, Repr

namespace Stream

/-- The bytes of a text that the stream still takes. -/
def accepted (s : Stream) (t : Text) : List UInt8 :=
  match s.capacity with
  | none => t.utf8
  | some capacity => t.utf8.take (capacity - s.bytes.length)

/-- Writes a text, or as much of it as fits, and tells whether all of it did. -/
def put (s : Stream) (t : Text) : Stream × Bool :=
  ({ s with bytes := s.bytes ++ s.accepted t }, (s.accepted t).length == t.utf8.length)

/-- Writes texts one after the other, up to one that does not fit. -/
def putAll (s : Stream) : List Text → Stream × Bool
  | [] => (s, true)
  | t :: ts =>
    match s.put t with
    | (s, true) => s.putAll ts
    | (s, false) => (s, false)

/-- Takes a line, flushes after it, and tells whether the line fitted. -/
def write (s : Stream) (l : Line) : Stream × Bool :=
  match s.putAll l.parts with
  | (s, true) => ({ s with flushes := s.flushes + 1 }, true)
  | (s, false) => (s, false)

end Stream

/-! ## Sinks -/

/-- Where finished lines go. -/
inductive Sink where
  | memory (m : Memory)
  | stream (s : Stream)
deriving DecidableEq, Repr

/-- Takes a line. There is nowhere to report a line that does not fit. -/
def Sink.write (s : Sink) (l : Line) : Sink :=
  match s with
  | .memory m => .memory (m.write l)
  | .stream s => .stream (s.write l).1

end LogLine
