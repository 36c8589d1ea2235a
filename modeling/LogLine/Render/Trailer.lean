-- SUMMARY: The report on an error and its causes that follows a line.
import LogLine.Style.Painted

/-!
# Trailers

An event with an error is followed by a report: a line for the error, and below
it a line for each cause, every one indented further than the one before.
-/

namespace LogLine

def trailerStyle : Style := ⟨some (.base .red), none, .only .bold⟩

/-- A part of a report, painted if escape sequences are wanted. -/
def trailerText (ansi : Bool) (t : Text) : Text := if ansi then trailerStyle.paint t else t

/-- The lines for the causes, from the given depth on. -/
def causeLines (ansi : Bool) : (depth : Nat) → List Text → Text
  | _, [] => []
  | depth, cause :: causes =>
    List.replicate (8 + 2 * depth) ' ' ++ trailerText ansi ("Caused by: ".toList ++ cause) ++
      '\n' :: causeLines ansi (depth + 1) causes

/-- The report on an error with its causes in turn. -/
def trailer (ansi : Bool) (error : Text) (causes : List Text) : Text :=
  trailerText ansi ("Error: ".toList ++ error) ++ '\n' :: causeLines ansi 0 causes

end LogLine
