-- SUMMARY: Text as a sequence of styled runs.
import LogLine.Style.Painted
import LogLine.Width.Cells

/-!
# Styled text

Reading markup produces runs: stretches of text under one composed spec. Text
pushed under the spec of the last run extends that run, so neighbouring runs
have different specs and no run is empty.
-/

namespace LogLine

/-- A stretch of text under one spec. The spec joins scope names with commas, outermost first; it
    is empty for text outside every scope. -/
structure Run where
  text : Text
  spec : Text
  style : Style
deriving DecidableEq

/-- Whether the run stands outside every scope. -/
def Run.isDefault (r : Run) : Bool := r.spec.isEmpty

/-- A sequence of runs. -/
structure StyledText where
  runs : List Run := []
deriving DecidableEq

namespace StyledText

/-! ## Building -/

/-- Adds a run at the end of a list of runs, merging it into the last one if the specs agree. The
    last run then keeps its style. -/
def addRun (new : Run) : List Run → List Run
  | [] => [new]
  | [last] =>
    if last.spec = new.spec then [{ last with text := last.text ++ new.text }] else [last, new]
  | r :: r' :: rest => r :: addRun new (r' :: rest)

/-- Adds text under a spec and a style. -/
def push (t : StyledText) (text spec : Text) (style : Style) : StyledText :=
  if text = [] then t else ⟨addRun ⟨text, spec, style⟩ t.runs⟩

def plain (text : Text) : StyledText := push {} text [] .default

/-- Adds every run of another text, merging at the seam. -/
def append (t other : StyledText) : StyledText :=
  other.runs.foldl (fun t r => t.push r.text r.spec r.style) t

instance : Append StyledText := ⟨append⟩

def pushSpaces (t : StyledText) (n : Nat) : StyledText := t.push (List.replicate n ' ') [] .default

/-! ## Measuring -/

/-- The characters without their styles. -/
def toText (t : StyledText) : Text := t.runs.flatMap Run.text

open scoped Sums

/-- The number of characters. -/
def length (t : StyledText) : Nat := (t.runs.map (·.text.length)).sum

/-- The cells the text takes. -/
def width (hyphen : SoftHyphen) (t : StyledText) : Nat := (t.runs.map (·.text.width hyphen)).sum

/-! ## Rendering -/

/-- The text for a terminal: painted run by run, or bare where escape sequences are not wanted. -/
def render (ansi : Bool) (t : StyledText) : Text :=
  if ansi then t.runs.flatMap fun r => r.style.paint r.text else t.toText

end StyledText

end LogLine
