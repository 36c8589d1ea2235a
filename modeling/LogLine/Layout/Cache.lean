-- SUMMARY: The last plan, kept until the terminal width changes.
import LogLine.Event.Diagnostic
import LogLine.Layout.Plan

/-!
# Cached plans

Planning is repeated only when it has to be: for the first line, for another
terminal width, and after the kept plan was given up.
-/

namespace LogLine

/-- The plan made last, and how many were made. -/
structure PlanCache where
  plan : Option Plan := none
  rebuilds : Nat := 0
deriving DecidableEq, Repr

namespace PlanCache

/-- The kept plan, if it is for the given terminal width. -/
def kept? (c : PlanCache) (width : Nat) : Option Plan :=
  c.plan.filter (·.terminalWidth = width)

/-- The cache after a plan for the given terminal width was asked for. -/
def visit (c : PlanCache) (fields : List Field) (width gap : Nat) : PlanCache :=
  match c.kept? width with
  | some _ => c
  | none => ⟨some (.ofFields fields width gap), c.rebuilds + 1⟩

/-- The plan for the given terminal width: the kept one, or a new one. -/
def get (c : PlanCache) (fields : List Field) (width gap : Nat) : Plan :=
  (c.kept? width).getD (.ofFields fields width gap)

/-- What is reported when a plan for the given terminal width is asked for: a new plan. -/
def journal (c : PlanCache) (fields : List Field) (width gap : Nat) : List Diagnostic :=
  match c.kept? width with
  | some _ => []
  | none => [⟨.debug, .layout, (Plan.ofFields fields width gap).report⟩]

/-- Gives the kept plan up. -/
def invalidate (c : PlanCache) : PlanCache := { c with plan := none }

end PlanCache

end LogLine
