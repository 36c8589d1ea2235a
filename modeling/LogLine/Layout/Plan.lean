-- SUMMARY: How many cells every column of a line gets.
import LogLine.Layout.Field

/-!
# Plans

A plan shares the cells of a terminal line out among its columns. Fixed
columns get their width, and the columns without one share the rest evenly,
rounded up. What is then too much is taken back one cell at a time, from the
first column to the last and round again, and no column goes below one cell.
-/

namespace LogLine

/-- The cells of every column, for a terminal of one width. -/
structure Plan where
  terminalWidth : Nat
  columns : List (Text × Nat)
deriving DecidableEq, Repr

namespace Plan

/-! ## Sharing out -/

open scoped Sums

/-- The cells for columns once the gaps between them are taken. -/
def room (count width gap : Nat) : Nat := width - (count - 1) * gap

/-- The cells of each column that takes what is left: an even share of what the fixed columns
    leave, rounded up, and one cell at least. -/
def share (fields : List Field) (room : Nat) : Nat :=
  let autos := fields.countP Field.isAuto
  let left := room - (fields.map Field.width).sum
  if autos = 0 then 0 else (max left autos + autos - 1) / autos

/-- The widths before anything is taken back. -/
def wanted (fields : List Field) (room : Nat) : List Nat :=
  fields.map fun f => if f.isAuto then share fields room else f.width

/-! ## Taking back -/

/-- Takes one cell from every column that has more than one, until the given number is taken.
    Returns the number still to be taken. -/
def shrinkRound : (excess : Nat) → List Nat → Nat × List Nat
  | excess, [] => (excess, [])
  | excess, w :: ws =>
    if 0 < excess ∧ 1 < w then
      let (left, rest) := shrinkRound (excess - 1) ws
      (left, (w - 1) :: rest)
    else
      let (left, rest) := shrinkRound excess ws
      (left, w :: rest)

/-- A round never has more to take afterwards. -/
theorem shrinkRound_le (excess : Nat) (ws : List Nat) : (shrinkRound excess ws).1 ≤ excess := by
  induction ws generalizing excess with
  | nil => exact Nat.le_refl _
  | cons w ws ih =>
    simp only [shrinkRound]
    split
    · exact Nat.le_trans (ih _) (Nat.sub_le _ _)
    · exact ih _

/-- A round takes a cell if there is one to take. -/
theorem shrinkRound_lt {excess : Nat} {ws : List Nat} (h : 0 < excess)
    (hw : ws.any (1 < ·) = true) : (shrinkRound excess ws).1 < excess := by
  induction ws with
  | nil => simp at hw
  | cons w ws ih =>
    simp only [shrinkRound]
    split
    · have := shrinkRound_le (excess - 1) ws
      simp only
      omega
    · next hne =>
      have hws : ws.any (1 < ·) = true := by
        simp only [List.any_cons, Bool.or_eq_true, decide_eq_true_eq] at hw
        rcases hw with hw | hw
        · exact absurd ⟨h, hw⟩ hne
        · exact hw
      exact ih hws

/-- Takes cells back, round after round, until enough are taken or every column has one cell. -/
def shrink (excess : Nat) (ws : List Nat) : List Nat :=
  if _h : 0 < excess ∧ ws.any (1 < ·) = true then
    shrink (shrinkRound excess ws).1 (shrinkRound excess ws).2
  else ws
termination_by excess
decreasing_by exact shrinkRound_lt _h.1 _h.2

/-! ## Plans -/

/-- The planned widths, in the order of the fields. -/
def widths (fields : List Field) (width gap : Nat) : List Nat :=
  let room := room fields.length width gap
  let wanted := wanted fields room
  shrink (wanted.sum - room) wanted

/-- Plans the columns of the fields for a terminal width, with gaps between the columns. -/
def ofFields (fields : List Field) (width gap : Nat) : Plan :=
  ⟨width, (fields.map Field.name).zip (widths fields width gap)⟩

/-- The cells of the first column with the given name. -/
def get? (p : Plan) (name : Text) : Option Nat := p.columns.lookup name

/-- The cells of all columns together, without gaps. -/
def total (p : Plan) : Nat := (p.columns.map (·.2)).sum

def report (p : Plan) : Text :=
  "layout for width ".toList ++ Text.ofNat p.terminalWidth ++ ": ".toList ++
    Text.join ", ".toList (p.columns.map fun c => c.1 ++ '=' :: Text.ofNat c.2)

end Plan

end LogLine
