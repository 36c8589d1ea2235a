-- SUMMARY: How much the planned widths are together, and which width a column gets.
import LogLine.Layout.Plan
import Mathlib.Algebra.Order.BigOperators.Group.List
import Mathlib.Tactic.Ring

/-!
# Planned widths

A plan gives every column at least one cell. Taking cells back stops at the room
of the line, or where every column has a single cell left. With a column that
takes what is left, the columns want the whole room at least, so they fill it.
Without one they get what they ask for, as far as there is room.
-/

namespace LogLine.Plan

/-! ## Taking back -/

/-- What a round takes back is missing from the widths afterwards. -/
theorem sum_shrinkRound (excess : Nat) (ws : List Nat) :
    (shrinkRound excess ws).2.sum + excess = ws.sum + (shrinkRound excess ws).1 := by
  induction ws generalizing excess with
  | nil => simp [shrinkRound]
  | cons w ws ih =>
    simp only [shrinkRound]
    split
    · next h =>
      have hrest := ih (excess - 1)
      simp only [List.sum_cons]
      omega
    · have hrest := ih excess
      simp only [List.sum_cons]
      omega

theorem length_shrinkRound (excess : Nat) (ws : List Nat) :
    (shrinkRound excess ws).2.length = ws.length := by
  induction ws generalizing excess with
  | nil => rfl
  | cons w ws ih =>
    simp only [shrinkRound]
    split <;> simp [ih]

theorem one_le_of_mem_shrinkRound {excess : Nat} {ws : List Nat} (h : ∀ w ∈ ws, 1 ≤ w) :
    ∀ w ∈ (shrinkRound excess ws).2, 1 ≤ w := by
  induction ws generalizing excess with
  | nil => simp [shrinkRound]
  | cons w ws ih =>
    have hrest : ∀ w ∈ ws, 1 ≤ w := fun w hw => h w (List.mem_cons_of_mem _ hw)
    have hw := h w List.mem_cons_self
    simp only [shrinkRound]
    split
    · next hlt =>
      simp only [List.mem_cons, forall_eq_or_imp]
      exact ⟨by omega, ih hrest⟩
    · simp only [List.mem_cons, forall_eq_or_imp]
      exact ⟨hw, ih hrest⟩

@[simp] theorem length_shrink (excess : Nat) (ws : List Nat) :
    (shrink excess ws).length = ws.length := by
  fun_induction shrink excess ws with
  | case1 excess ws h ih => rw [ih, length_shrinkRound]
  | case2 => rfl

theorem one_le_of_mem_shrink {excess : Nat} {ws : List Nat} (h : ∀ w ∈ ws, 1 ≤ w) :
    ∀ w ∈ shrink excess ws, 1 ≤ w := by
  fun_induction shrink excess ws with
  | case1 excess ws _ ih => exact ih (one_le_of_mem_shrinkRound h)
  | case2 => exact h

/-- Columns of at least one cell are together at least as wide as they are many. -/
theorem length_le_sum {ws : List Nat} (h : ∀ w ∈ ws, 1 ≤ w) : ws.length ≤ ws.sum := by
  simpa using List.card_nsmul_le_sum ws 1 h

/-- Everything that is too much is taken back, as far as columns of one cell allow. -/
theorem sum_shrink {excess : Nat} {ws : List Nat} (h : ∀ w ∈ ws, 1 ≤ w) :
    (shrink excess ws).sum = max (ws.sum - excess) ws.length := by
  fun_induction shrink excess ws with
  | case1 excess ws _ ih =>
    rw [ih (one_le_of_mem_shrinkRound h), length_shrinkRound]
    have hsum := sum_shrinkRound excess ws
    have hle := shrinkRound_le excess ws
    omega
  | case2 excess ws hstop =>
    -- Nothing is too much any more, or no column has a second cell.
    have hlen := length_le_sum h
    rcases Nat.eq_zero_or_pos excess with rfl | hpos
    · omega
    · have hone : ∀ w ∈ ws, w = 1 := by
        intro w hw
        have hw1 := h w hw
        have hany : ¬ ws.any (1 < ·) = true := fun hany => hstop ⟨hpos, hany⟩
        simp only [List.any_eq_true, decide_eq_true_eq, not_exists, not_and] at hany
        have := hany w hw
        omega
      have hsum : ws.sum = ws.length := by
        rw [List.eq_replicate_of_mem hone]
        simp
      omega

/-! ## What the columns want -/

/-- The cells that the columns with a width of their own ask for. -/
def fixedWidth (fields : List Field) : Nat :=
  ((fields.filter fun f => !f.isAuto).map Field.width).sum

theorem sum_map_width (fields : List Field) : (fields.map Field.width).sum = fixedWidth fields := by
  induction fields with
  | nil => rfl
  | cons f fields ih =>
    unfold fixedWidth at ih ⊢
    cases hauto : f.isAuto with
    | true =>
      have hzero : f.width = 0 := by simpa [Field.isAuto] using hauto
      simp [hauto, hzero, ih]
    | false => simp [hauto, ih]

theorem one_le_of_mem_wanted {fields : List Field} {room : Nat} :
    ∀ w ∈ wanted fields room, 1 ≤ w := by
  intro w hw
  obtain ⟨f, hf, rfl⟩ := List.mem_map.mp hw
  split
  · next hauto =>
    have hcount : 0 < fields.countP Field.isAuto := List.countP_pos_iff.mpr ⟨f, hf, hauto⟩
    simp only [share, Nat.ne_of_gt hcount, if_false]
    rw [Nat.le_div_iff_mul_le hcount]
    omega
  · next hfixed =>
    simp only [Field.isAuto, beq_iff_eq] at hfixed
    omega

theorem sum_map_share (fields : List Field) (share : Nat) :
    (fields.map fun f => if f.isAuto then share else f.width).sum =
      (fields.map Field.width).sum + fields.countP Field.isAuto * share := by
  induction fields with
  | nil => simp
  | cons f fields ih =>
    simp only [List.map_cons, List.sum_cons, ih, List.countP_cons]
    split
    · next hauto =>
      have hzero : f.width = 0 := by simpa [Field.isAuto] using hauto
      rw [hzero]
      ring
    · ring

theorem sum_wanted (fields : List Field) (room : Nat) :
    (wanted fields room).sum =
      fixedWidth fields + fields.countP Field.isAuto * share fields room := by
  rw [wanted, sum_map_share, sum_map_width]

theorem countP_isAuto_eq_zero {fields : List Field} (h : fields.any Field.isAuto = false) :
    fields.countP Field.isAuto = 0 := by
  rw [List.countP_eq_zero]
  simpa using h

/-- With a column that takes what is left, the columns want the whole room. -/
theorem room_le_sum_wanted {fields : List Field} (h : ∃ f ∈ fields, f.isAuto = true) (room : Nat) :
    room ≤ (wanted fields room).sum := by
  have hcount : 0 < fields.countP Field.isAuto := by
    rw [List.countP_pos_iff]
    exact h
  have hshare : room - (fields.map Field.width).sum ≤
      fields.countP Field.isAuto * share fields room := by
    simp only [share, Nat.ne_of_gt hcount, if_false]
    have hround := Nat.lt_mul_div_succ
      (max (room - (fields.map Field.width).sum) (fields.countP Field.isAuto) +
        fields.countP Field.isAuto - 1) hcount
    rw [Nat.mul_add] at hround
    omega
  rw [wanted, sum_map_share]
  omega

/-! ## What they get -/

@[simp] theorem length_widths (fields : List Field) (width gap : Nat) :
    (widths fields width gap).length = fields.length := by
  simp [widths, wanted]

theorem one_le_of_mem_widths {fields : List Field} {width gap : Nat} :
    ∀ w ∈ widths fields width gap, 1 ≤ w := one_le_of_mem_shrink one_le_of_mem_wanted

/-- What the columns get together: with a column that takes what is left the room or a cell each,
    and without one no more than they ask for. -/
theorem sum_widths_eq (fields : List Field) (width gap : Nat) :
    (widths fields width gap).sum =
      if fields.any Field.isAuto then max (room fields.length width gap) fields.length
      else min (fixedWidth fields) (max (room fields.length width gap) fields.length) := by
  have hwidths : (widths fields width gap).sum =
      max ((wanted fields (room fields.length width gap)).sum -
        ((wanted fields (room fields.length width gap)).sum - room fields.length width gap))
        fields.length := by
    rw [widths, sum_shrink one_le_of_mem_wanted, wanted, List.length_map]
  rw [hwidths]
  cases hauto : fields.any Field.isAuto with
  | true =>
    have hroom := room_le_sum_wanted (List.any_eq_true.mp hauto) (room fields.length width gap)
    simp only [if_true]
    omega
  | false =>
    -- Without shares the columns want what is their own, and that is a cell each at least.
    have hcells : (wanted fields (room fields.length width gap)).length ≤
        (wanted fields (room fields.length width gap)).sum :=
      length_le_sum one_le_of_mem_wanted
    rw [sum_wanted, countP_isAuto_eq_zero hauto, wanted, List.length_map] at hcells
    rw [sum_wanted, countP_isAuto_eq_zero hauto]
    simp only [Bool.false_eq_true, if_false]
    omega

/-- With a column that takes what is left, the columns fill the room of a line that has a cell for
    each of them. -/
theorem sum_widths {fields : List Field} (h : ∃ f ∈ fields, f.isAuto = true) {width gap : Nat}
    (hroom : fields.length ≤ room fields.length width gap) :
    (widths fields width gap).sum = room fields.length width gap := by
  rw [sum_widths_eq, if_pos (List.any_eq_true.mpr h), Nat.max_eq_left hroom]

/-! ## Asking by name -/

theorem lookup_zip {names : List Text} (h : names.Nodup) {ws : List Nat}
    (hlen : names.length = ws.length) :
    names.map (fun n => (names.zip ws).lookup n) = ws.map some := by
  induction names generalizing ws with
  | nil =>
    have : ws = [] := List.eq_nil_of_length_eq_zero hlen.symm
    simp [this]
  | cons name names ih =>
    obtain ⟨w, ws, rfl⟩ := List.exists_cons_of_length_eq_add_one hlen.symm
    have hnot : ∀ n ∈ names, (n == name) = false := by
      intro n hn
      rw [beq_eq_false_iff_ne]
      rintro rfl
      exact (List.nodup_cons.mp h).1 hn
    have hrest := ih (List.nodup_cons.mp h).2 (by simpa using hlen)
    simp only [List.map_cons, List.zip_cons_cons, List.lookup_cons_self, List.cons.injEq, true_and]
    rw [← hrest]
    refine List.map_congr_left fun n hn => ?_
    simp [List.lookup_cons, hnot n hn]

/-- Columns with different names get their own widths. -/
theorem map_get?_ofFields {fields : List Field} (h : (fields.map Field.name).Nodup)
    (width gap : Nat) :
    fields.map (fun f => (ofFields fields width gap).get? f.name) =
      (widths fields width gap).map some := by
  have hlen : (fields.map Field.name).length = (widths fields width gap).length := by simp
  have hlookup := lookup_zip h hlen
  rw [List.map_map] at hlookup
  exact hlookup

theorem exists_get?_ofFields {fields : List Field} (h : (fields.map Field.name).Nodup) {f : Field}
    (hf : f ∈ fields) (width gap : Nat) :
    ∃ w, (ofFields fields width gap).get? f.name = some w := by
  have hmem := List.mem_map_of_mem (f := fun f => (ofFields fields width gap).get? f.name) hf
  rw [map_get?_ofFields h] at hmem
  obtain ⟨w, -, hw⟩ := List.mem_map.mp hmem
  exact ⟨w, hw.symm⟩

theorem one_le_of_get?_ofFields {fields : List Field} {width gap w : Nat} {name : Text}
    (h : (ofFields fields width gap).get? name = some w) : 1 ≤ w := by
  obtain ⟨before, after, hcolumns, -⟩ := List.lookup_eq_some_iff.mp h
  have hmem : (name, w) ∈ (fields.map Field.name).zip (widths fields width gap) := by
    rw [show (fields.map Field.name).zip (widths fields width gap) = before ++ (name, w) :: after
      from hcolumns]
    exact List.mem_append_right _ List.mem_cons_self
  exact one_le_of_mem_widths w (List.of_mem_zip hmem).2

end LogLine.Plan
