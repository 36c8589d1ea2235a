-- SUMMARY: Cells are taken back in turn, so what a column loses is known from its place.
import LogLine.Proofs.Layout.Widths
import Mathlib.Data.Nat.Find

/-!
# Taking cells back

Taking back goes round the columns in the order of the layout, and a column whose
turn comes gives a cell up if it has a second one. What is left of a column therefore
depends on the number of its turns only: one in every full round, and one more if it
stands before the place where the last round stopped.
-/

namespace LogLine.Plan

/-! ## Turns -/

/-- A width after a number of turns. The last cell is never given up. -/
def afterTurns (w turns : Nat) : Nat := w - min (w - 1) turns

@[simp] theorem afterTurns_zero (w : Nat) : afterTurns w 0 = w := by simp [afterTurns]

theorem afterTurns_add (w n n' : Nat) : afterTurns (afterTurns w n) n' = afterTurns w (n + n') := by
  unfold afterTurns
  omega

/-- Whoever has no second cell keeps what it has. -/
theorem afterTurns_of_le_one {w : Nat} (h : w ≤ 1) (n : Nat) : afterTurns w n = w := by
  unfold afterTurns
  omega

/-! ## A single round -/

/-- The number of columns that have a second cell. -/
def wide (ws : List Nat) : Nat := ws.countP (1 < ·)

theorem wide_take_le {ws : List Nat} {i j : Nat} (h : i ≤ j) :
    wide (ws.take i) ≤ wide (ws.take j) :=
  (List.take_sublist_take_left h).countP_le

/-- A round takes a cell from every column that has a second one, until there were as many of them
    as there are cells to be taken. -/
theorem shrinkRound_eq (excess : Nat) (ws : List Nat) :
    shrinkRound excess ws = (excess - wide ws,
      ws.mapIdx fun i w => afterTurns w (if wide (ws.take i) < excess then 1 else 0)) := by
  induction ws generalizing excess with
  | nil => simp [shrinkRound, wide]
  | cons w ws ih =>
    by_cases h : 0 < excess ∧ 1 < w
    · have hwide (ws : List Nat) : wide (w :: ws) = wide ws + 1 := by simp [wide, h.2]
      have hturn (i : Nat) : wide (ws.take i) + 1 < excess ↔ wide (ws.take i) < excess - 1 := by
        omega
      have hfirst : afterTurns w 1 = w - 1 := by
        unfold afterTurns
        omega
      have hnone : wide [] < excess := h.1
      simp only [shrinkRound, h, and_self, if_true, ih, List.mapIdx_cons, List.take_zero,
        List.take_succ_cons, hwide, hturn, hnone, hfirst, Prod.mk.injEq, and_true]
      omega
    · rcases Nat.eq_zero_or_pos excess with rfl | hpos
      · simp [shrinkRound, ih]
      · have hw : w ≤ 1 := by omega
        have hwide (ws : List Nat) : wide (w :: ws) = wide ws := by
          simp [wide, Nat.not_lt.mpr hw]
        simp only [shrinkRound, h, if_false, ih, List.mapIdx_cons, List.take_succ_cons, hwide,
          afterTurns_of_le_one hw]

/-- A round goes up to some place, and behind the last column if cells are still to be taken. -/
theorem exists_shrinkRound_eq (excess : Nat) (ws : List Nat) :
    ∃ stop, (shrinkRound excess ws).2 =
        ws.mapIdx (fun i w => afterTurns w (if i < stop then 1 else 0)) ∧
      (0 < (shrinkRound excess ws).1 → ws.length ≤ stop) := by
  have hend : ∃ i, excess ≤ wide (ws.take i) ∨ ws.length ≤ i := ⟨ws.length, .inr (Nat.le_refl _)⟩
  have hstop := Nat.find_spec hend
  refine ⟨Nat.find hend, ?_, fun hleft => ?_⟩
  · have hturn {i : Nat} (hi : i < ws.length) :
        wide (ws.take i) < excess ↔ i < Nat.find hend := by
      constructor
      · intro hlt
        by_contra hle
        have hmono := @wide_take_le ws _ _ (Nat.not_lt.mp hle)
        omega
      · intro hlt
        have hnot := Nat.find_min hend hlt
        omega
    rw [shrinkRound_eq, List.mapIdx_eq_mapIdx_iff]
    intro i hi
    simp only [hturn hi]
  · rw [shrinkRound_eq] at hleft
    have hmost : wide (ws.take (Nat.find hend)) ≤ wide ws :=
      (List.take_sublist _ ws).countP_le
    simp only at hleft
    omega

/-! ## Rounds -/

theorem shrink_zero (ws : List Nat) : shrink 0 ws = ws := by
  rw [shrink, dif_neg fun h => Nat.lt_irrefl 0 h.1]

theorem shrinkRound_zero (ws : List Nat) : shrinkRound 0 ws = (0, ws) := by
  induction ws with
  | nil => rfl
  | cons w ws ih => simp [shrinkRound, ih]

/-- One round is enough for as many cells as there are columns with a second one. -/
theorem shrink_of_le_wide {excess : Nat} {ws : List Nat} (h : excess ≤ wide ws) :
    shrink excess ws = (shrinkRound excess ws).2 := by
  rcases Nat.eq_zero_or_pos excess with rfl | hpos
  · rw [shrink_zero, shrinkRound_zero]
  · have hany : ws.any (1 < ·) = true := by
      obtain ⟨w, hw, hlt⟩ := List.countP_pos_iff.mp (Nat.lt_of_lt_of_le hpos h)
      exact List.any_eq_true.mpr ⟨w, hw, hlt⟩
    have hdone : (shrinkRound excess ws).1 = 0 := by
      rw [shrinkRound_eq]
      exact Nat.sub_eq_zero_of_le h
    rw [shrink, dif_pos ⟨hpos, hany⟩, hdone, shrink_zero]

/-- Taking back comes to a stop in some round, and every column before that place had one turn
    more than the others. -/
theorem exists_shrink_eq (excess : Nat) (ws : List Nat) :
    ∃ rounds stop, shrink excess ws =
      ws.mapIdx fun i w => afterTurns w (rounds + if i < stop then 1 else 0) := by
  fun_induction shrink excess ws with
  | case1 excess ws _ ih =>
    obtain ⟨stop, hround, hfull⟩ := exists_shrinkRound_eq excess ws
    rcases Nat.eq_zero_or_pos (shrinkRound excess ws).1 with hdone | hleft
    · refine ⟨0, stop, ?_⟩
      simp only [hdone, shrink_zero, hround, Nat.zero_add]
    · obtain ⟨rounds, last, hrest⟩ := ih
      refine ⟨rounds + 1, last, ?_⟩
      rw [hrest, hround, List.mapIdx_mapIdx, List.mapIdx_eq_mapIdx_iff]
      intro i hi
      have hturn : i < stop := Nat.lt_of_lt_of_le hi (hfull hleft)
      simp only [Function.comp_apply, hturn, if_true, afterTurns_add]
      congr 1
      omega
  | case2 excess ws _ => exact ⟨0, 0, List.ext_getElem (by simp) (by simp)⟩

/-- The number of cells still to be taken and the widths, after a number of rounds. -/
def afterRounds : (rounds : Nat) → Nat × List Nat → Nat × List Nat
  | 0, s => s
  | rounds + 1, s => afterRounds rounds (shrinkRound s.1 s.2)

/-- Whether another round is made: cells are still to be taken, and a column has a second one. -/
def GoesOn (s : Nat × List Nat) : Prop := 0 < s.1 ∧ ∃ w ∈ s.2, 1 < w

/-- Taking back ends after as many rounds as there are cells to be taken, or fewer. -/
theorem exists_afterRounds (excess : Nat) (ws : List Nat) :
    ∃ rounds ≤ excess, (∀ n < rounds, GoesOn (afterRounds n (excess, ws))) ∧
      ¬ GoesOn (afterRounds rounds (excess, ws)) ∧
      shrink excess ws = (afterRounds rounds (excess, ws)).2 := by
  fun_induction shrink excess ws with
  | case1 excess ws h ih =>
    obtain ⟨rounds, hle, hon, hend, hshrink⟩ := ih
    have hlt := shrinkRound_lt h.1 h.2
    refine ⟨rounds + 1, by omega, fun n hn => ?_, hend, hshrink⟩
    cases n with
    | zero => exact ⟨h.1, by simpa [afterRounds] using h.2⟩
    | succ n => exact hon n (by omega)
  | case2 excess ws h =>
    refine ⟨0, Nat.zero_le _, fun n hn => absurd hn (Nat.not_lt_zero n), fun hon => h ?_, rfl⟩
    exact ⟨hon.1, by simpa [afterRounds] using hon.2⟩

/-! ## Columns -/

/-- The width that a column wants before anything is taken back: its own, or the share of the
    columns that take what is left. -/
def wantedBy (fields : List Field) (room : Nat) (f : Field) : Nat :=
  if f.isAuto then share fields room else f.width

theorem zip_mapIdx (fields : List Field) (first : Field → Nat) (g : Nat → Nat → Nat) :
    (fields.map Field.name).zip ((fields.map first).mapIdx g) =
      fields.mapIdx fun i f => (f.name, g i (first f)) := by
  induction fields generalizing g with
  | nil => rfl
  | cons f fields ih => simp only [List.map_cons, List.mapIdx_cons, List.zip_cons_cons, ih]

/-- Where the widths are known by their places, so are the columns. -/
theorem columns_eq_mapIdx {fields : List Field} {width gap : Nat} {g : Nat → Nat → Nat}
    (h : widths fields width gap = (wanted fields (room fields.length width gap)).mapIdx g) :
    (ofFields fields width gap).columns = fields.mapIdx fun i f =>
      (f.name, g i (wantedBy fields (room fields.length width gap) f)) := by
  have hcolumns : (ofFields fields width gap).columns =
      (fields.map Field.name).zip (widths fields width gap) := rfl
  rw [hcolumns, h]
  exact zip_mapIdx fields (wantedBy fields _) g

/-- Taking back is fair and follows the layout: with the widths that the columns want at first, it
    makes some full rounds and stops at some place of the next, and a column loses a cell in every
    turn except its last one. So of two columns that take what is left, the later one is as wide as
    the earlier one or has one cell more. -/
theorem columns_fair (fields : List Field) (width gap : Nat) :
    let columns := (ofFields fields width gap).columns
    let first := wantedBy fields (room fields.length width gap)
    (∃ rounds stop, columns = fields.mapIdx fun i f =>
      (f.name, first f - min (first f - 1) (rounds + if i < stop then 1 else 0))) ∧
    ∀ (i j : Nat) (f f' : Field), i < j → fields[i]? = some f → fields[j]? = some f' →
      f.isAuto = true → f'.isAuto = true →
      ∃ w w', columns[i]? = some (f.name, w) ∧ columns[j]? = some (f'.name, w') ∧
        w ≤ w' ∧ w' ≤ w + 1 := by
  intro columns first
  obtain ⟨rounds, stop, hshrink⟩ := exists_shrink_eq
    ((wanted fields (room fields.length width gap)).sum - room fields.length width gap)
    (wanted fields (room fields.length width gap))
  have hcolumns : columns = fields.mapIdx fun i f =>
      (f.name, afterTurns (first f) (rounds + if i < stop then 1 else 0)) :=
    columns_eq_mapIdx hshrink
  refine ⟨⟨rounds, stop, hcolumns⟩, fun i j f f' hij hf hf' hauto hauto' => ?_⟩
  have hsame : first f = first f' := by simp only [first, wantedBy, hauto, hauto', if_true]
  refine ⟨afterTurns (first f) (rounds + if i < stop then 1 else 0),
    afterTurns (first f') (rounds + if j < stop then 1 else 0), ?_, ?_, ?_⟩
  · rw [hcolumns, List.getElem?_mapIdx, hf]
    rfl
  · rw [hcolumns, List.getElem?_mapIdx, hf']
    rfl
  · rw [← hsame]
    unfold afterTurns
    split <;> split <;> omega

/-! Two cells are too many, for a column of one cell, one of four, and three that share the rest.
The first has nothing to give; the next two, of which one has a width of its own, give a cell each. -/

def uneven : List Field :=
  [{ name := "mark".toList, width := 1 }, { name := "name".toList },
    { name := "level".toList, width := 4 }, { name := "message".toList },
    { name := "note".toList }]

theorem columns_fair_uneven :
    let columns := (ofFields uneven 19 1).columns
    let first := wantedBy uneven 15
    uneven.map first = [1, 4, 4, 4, 4] ∧
    columns = [("mark".toList, 1), ("name".toList, 3), ("level".toList, 3),
      ("message".toList, 4), ("note".toList, 4)] ∧
    (∃ rounds stop, rounds = 0 ∧ stop = 3 ∧ columns = uneven.mapIdx fun i f =>
      (f.name, first f - min (first f - 1) (rounds + if i < stop then 1 else 0))) ∧
    ∃ w w', columns[1]? = some ("name".toList, w) ∧ columns[3]? = some ("message".toList, w') ∧
      w ≤ w' ∧ w' ≤ w + 1 := by
  intro columns first
  obtain ⟨⟨rounds, stop, hturns⟩, hpairs⟩ := columns_fair uneven 19 1
  have hcolumns : columns = [("mark".toList, 1), ("name".toList, 3), ("level".toList, 3),
      ("message".toList, 4), ("note".toList, 4)] := by decide +kernel
  have hplace (i : Nat) : columns[i]? = uneven[i]?.map fun f => (f.name, first f -
      min (first f - 1) (rounds + if i < stop then 1 else 0)) :=
    (congrArg (·[i]?) hturns).trans List.getElem?_mapIdx
  rw [hcolumns] at hplace
  -- What the columns lost leaves one place only where taking back can have stopped.
  have hstop : rounds = 0 ∧ stop = 3 := by
    have hlevel : 3 = 4 - min 3 (rounds + if 2 < stop then 1 else 0) :=
      Option.some.inj (congrArg (Option.map Prod.snd) (hplace 2))
    have hmessage : 4 = 4 - min 3 (rounds + if 3 < stop then 1 else 0) :=
      Option.some.inj (congrArg (Option.map Prod.snd) (hplace 3))
    split at hlevel <;> split at hmessage <;> omega
  exact ⟨by decide, hcolumns, ⟨rounds, stop, hstop.1, hstop.2, hturns⟩,
    hpairs 1 3 { name := "name".toList } { name := "message".toList } (by decide) rfl rfl rfl rfl⟩

end LogLine.Plan
