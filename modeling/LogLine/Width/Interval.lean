-- SUMMARY: Intervals of code points and binary search in a sorted table of them.

/-!
# Intervals of code points

A class of characters is a table of intervals, sorted and disjoint. A code
point is looked up by halving the table; a sorted table answers as membership
in the union of its intervals.
-/

namespace LogLine.Width

/-- The code points from `first` to `last`, both included. -/
structure Interval where
  first : Nat
  last : Nat
deriving DecidableEq, Repr

namespace Interval

/-- Whether a code point lies in the interval. -/
def covers (i : Interval) (u : Nat) : Bool := i.first ≤ u && u ≤ i.last

/-- Whether an interval ends before the next one begins. -/
def precedes (i j : Interval) : Bool := i.last < j.first

end Interval

/-- Whether one of the intervals between two positions covers a code point, found by halving. -/
def searchBetween (table : Array Interval) (u : Nat) (low high : Nat) : Bool :=
  if h : low < high ∧ high ≤ table.size then
    let middle := low + (high - low) / 2
    have bound : middle < table.size := by omega
    if table[middle].last < u then searchBetween table u (middle + 1) high
    else if u < table[middle].first then searchBetween table u low middle
    else true
  else false
termination_by high - low

/-- Whether a sorted table covers a code point. -/
def inTable (table : Array Interval) (u : Nat) : Bool :=
  match table[0]?, table.back? with
  | some first, some last =>
    first.first ≤ u && u ≤ last.last && searchBetween table u 0 table.size
  | _, _ => false

end LogLine.Width
