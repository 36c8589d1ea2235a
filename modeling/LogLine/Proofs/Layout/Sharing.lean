-- SUMMARY: What the columns get together, and what becomes of those with a width of their own.
import LogLine.Proofs.Layout.Shrinking

/-!
# Shared lines

Whatever the line has room for, the plan is made in the end, and every column has a
cell in it. On a line with room for all the columns fill it, if one of them takes what
is left.

The shares are rounded up, and the cells that are then too many are taken from the
columns in turn, whoever they belong to. So even on a line with room for all, a column
with a width of its own can lose a cell: it does if it is among the first columns with a
second cell, as many of them as rounding added cells.
-/

namespace LogLine.Plan

variable {fields : List Field} {width gap : Nat}

/-! ## All columns together -/

theorem map_snd_columns (fields : List Field) (width gap : Nat) :
    (ofFields fields width gap).columns.map Prod.snd = widths fields width gap :=
  List.map_snd_zip (by simp)

/-- Taking back ends, in no more rounds than there are cells too many, and what it leaves is the
    plan. There is a column for every field, in their order, and it has a cell. With a column that
    takes what is left, the columns fill the room of the line or have a cell each; without one, they
    get what they ask for as far as there is room. So with such a column, and a cell for each, the
    columns and the gaps fill the line. -/
theorem total_ofFields (fields : List Field) (width gap : Nat) :
    let n := fields.length
    let space := width - (n - 1) * gap
    let plan := ofFields fields width gap
    let excess := (wanted fields space).sum - space
    (∃ rounds ≤ excess, (∀ k < rounds, GoesOn (afterRounds k (excess, wanted fields space))) ∧
      ¬ GoesOn (afterRounds rounds (excess, wanted fields space)) ∧
      plan.columns.map Prod.snd = (afterRounds rounds (excess, wanted fields space)).2) ∧
    plan.columns.map Prod.fst = fields.map Field.name ∧
    (∀ c ∈ plan.columns, 1 ≤ c.2) ∧
    plan.total = (if fields.any Field.isAuto then max space n
      else min (fixedWidth fields) (max space n)) ∧
    (fields.any Field.isAuto = true → n + (n - 1) * gap ≤ width →
      plan.total + (n - 1) * gap = width) := by
  intro n space plan excess
  have hsnd := map_snd_columns fields width gap
  have htotal : plan.total = if fields.any Field.isAuto then max space n
      else min (fixedWidth fields) (max space n) :=
    (congrArg List.sum hsnd).trans (sum_widths_eq fields width gap)
  refine ⟨?_, List.map_fst_zip (by simp), fun c hc => ?_, htotal, fun hauto hwidth => ?_⟩
  · obtain ⟨rounds, hle, hon, hend, hshrink⟩ := exists_afterRounds excess (wanted fields space)
    exact ⟨rounds, hle, hon, hend, hsnd.trans hshrink⟩
  · exact one_le_of_mem_widths c.2 (List.of_mem_zip hc).2
  · have hspace : space = width - (n - 1) * gap := rfl
    rw [htotal, if_pos hauto]
    omega

/-- Two columns with a width of their own and one without fill a line of forty cells. -/
theorem total_ofFields_forty :
    (ofFields [{ name := ['a'], width := 8 }, { name := ['b'], width := 10 }, { name := ['c'] }]
      40 1).total + 2 = 40 :=
  (total_ofFields [{ name := ['a'], width := 8 }, { name := ['b'], width := 10 }, { name := ['c'] }]
    40 1).2.2.2.2 (by decide) (by decide)

/-! ## Columns with a width of their own -/

/-- The cells that the shares are too many because they are rounded up. -/
def rounding (fields : List Field) (room : Nat) : Nat :=
  fields.countP Field.isAuto * share fields room - (room - fixedWidth fields)

section

variable {room : Nat} (hfits : fixedWidth fields + fields.countP Field.isAuto ≤ room)

include hfits

/-- On a line with room for all, nothing is too much but what rounding added. -/
theorem excess_eq_rounding :
    (wanted fields room).sum - room = rounding fields room := by
  rw [sum_wanted, rounding]
  omega

/-- Where the columns that share the rest find a cell each, their share is the rest divided among
    them and rounded up. -/
theorem share_eq (hauto : 0 < fields.countP Field.isAuto) :
    share fields room = (room - fixedWidth fields + fields.countP Field.isAuto - 1) /
      fields.countP Field.isAuto := by
  have hleft : max (room - (fields.map Field.width).sum) (fields.countP Field.isAuto) =
      room - fixedWidth fields := by
    rw [sum_map_width]
    omega
  simp only [share, Nat.ne_of_gt hauto, if_false]
  rw [hleft]

theorem rounding_lt (hauto : 0 < fields.countP Field.isAuto) :
    rounding fields room < fields.countP Field.isAuto := by
  have hle := Nat.mul_div_le (room - fixedWidth fields + fields.countP Field.isAuto - 1)
    (fields.countP Field.isAuto)
  rw [rounding, share_eq hfits hauto]
  omega

/-- Shares that divide what is left are not rounded. -/
theorem rounding_eq_zero
    (heven : fields.countP Field.isAuto = 0 ∨
      fields.countP Field.isAuto ∣ room - fixedWidth fields) : rounding fields room = 0 := by
  rcases Nat.eq_zero_or_pos (fields.countP Field.isAuto) with hnone | hauto
  · rw [rounding, hnone, Nat.zero_mul, Nat.zero_sub]
  · obtain ⟨q, hq⟩ := heven.resolve_left (Nat.ne_of_gt hauto)
    have hshare : share fields room = q := by
      rw [share_eq hfits hauto, hq, Nat.add_sub_assoc hauto, Nat.mul_add_div hauto,
        Nat.div_eq_of_lt (Nat.sub_lt hauto Nat.one_pos), Nat.add_zero]
    rw [rounding, hshare, ← hq, Nat.sub_self]

/-- What rounding added is taken back in a single round: shares that were rounded up have a second
    cell to give. -/
theorem rounding_le_wide : rounding fields room ≤ wide (wanted fields room) := by
  rcases Nat.eq_zero_or_pos (fields.countP Field.isAuto) with hnone | hauto
  · rw [rounding_eq_zero hfits (.inl hnone)]
    exact Nat.zero_le _
  · rcases Nat.lt_or_ge 1 (share fields room) with hshare | hshare
    · have hwide : fields.countP Field.isAuto ≤ wide (wanted fields room) := by
        rw [wide, wanted, List.countP_map]
        refine List.countP_mono_left fun f _ hf => ?_
        simpa [hf] using hshare
      exact Nat.le_trans (Nat.le_of_lt (rounding_lt hfits hauto)) hwide
    · have hmul := Nat.mul_le_mul_left (fields.countP Field.isAuto) hshare
      rw [Nat.mul_one] at hmul
      rw [rounding]
      omega

end

/-- On a line with room for all, the first columns with a second cell lose one, as many of them as
    rounding added cells. -/
theorem widths_of_fits
    (hfits : fixedWidth fields + fields.countP Field.isAuto ≤ room fields.length width gap) :
    widths fields width gap = (wanted fields (room fields.length width gap)).mapIdx fun i w =>
      afterTurns w (if wide ((wanted fields (room fields.length width gap)).take i) <
        rounding fields (room fields.length width gap) then 1 else 0) := by
  have hshrink : widths fields width gap = shrink (rounding fields (room fields.length width gap))
      (wanted fields (room fields.length width gap)) :=
    congrArg (shrink · _) (excess_eq_rounding hfits)
  rw [hshrink, shrink_of_le_wide (rounding_le_wide hfits), shrinkRound_eq]

theorem wide_take_wanted (fields : List Field) (room i : Nat) :
    wide ((wanted fields room).take i) =
      (fields.take i).countP fun f => 1 < wantedBy fields room f := by
  rw [wide, wanted, ← List.map_take, List.countP_map]
  rfl

/-- On a line with room for all, a column with a width of its own keeps it exactly if this is a
    single cell, or if at least as many columns before it want a second cell as rounding added
    cells; otherwise it loses one. So it keeps its width whenever the shares divide what is left. -/
theorem fixed_columns
    (hfits : fixedWidth fields + fields.countP Field.isAuto + (fields.length - 1) * gap ≤ width)
    {i : Nat} {f : Field} (hf : fields[i]? = some f) (hfixed : f.isAuto = false) :
    let space := width - (fields.length - 1) * gap
    let columns := (ofFields fields width gap).columns
    let before := (fields.take i).countP fun f => 1 < wantedBy fields space f
    (columns[i]? = some (f.name, f.width) ↔ f.width = 1 ∨ rounding fields space ≤ before) ∧
    (columns[i]? = some (f.name, f.width) ∨ columns[i]? = some (f.name, f.width - 1)) ∧
    (fields.countP Field.isAuto = 0 ∨ fields.countP Field.isAuto ∣ space - fixedWidth fields →
      columns[i]? = some (f.name, f.width)) := by
  intro space columns before
  have hroom : fixedWidth fields + fields.countP Field.isAuto ≤ space := by
    show _ ≤ width - (fields.length - 1) * gap
    omega
  have hpos : f.width ≠ 0 := by simpa [Field.isAuto] using hfixed
  have hcolumn : columns[i]? =
      some (f.name, afterTurns f.width (if before < rounding fields space then 1 else 0)) := by
    have hcolumns : columns = fields.mapIdx fun i f => (f.name, afterTurns (wantedBy fields space f)
        (if wide ((wanted fields space).take i) < rounding fields space then 1 else 0)) :=
      columns_eq_mapIdx (widths_of_fits hroom)
    have hown : wantedBy fields space f = f.width := by simp [wantedBy, hfixed]
    rw [hcolumns, List.getElem?_mapIdx, hf, Option.map_some, wide_take_wanted, hown]
  by_cases hkeeps : f.width = 1 ∨ rounding fields space ≤ before
  · have hkept : columns[i]? = some (f.name, f.width) := by
      rcases hkeeps with hone | hturn
      · rw [hcolumn, afterTurns_of_le_one (Nat.le_of_eq hone)]
      · rw [hcolumn, if_neg (Nat.not_lt.mpr hturn), afterTurns_zero]
    exact ⟨iff_of_true hkept hkeeps, .inl hkept, fun _ => hkept⟩
  · have hlost : columns[i]? = some (f.name, f.width - 1) := by
      have hturn : before < rounding fields space := by omega
      have hcell : min (f.width - 1) 1 = 1 := by omega
      rw [hcolumn, if_pos hturn, afterTurns, hcell]
    have hnarrower : columns[i]? ≠ some (f.name, f.width) := by
      rw [hlost]
      intro hsame
      have hwidth : f.width - 1 = f.width := congrArg Prod.snd (Option.some.inj hsame)
      omega
    refine ⟨iff_of_false hnarrower hkeeps, .inr hlost, fun heven => ?_⟩
    rw [rounding_eq_zero hroom heven] at hkeeps
    exact absurd (.inr (Nat.zero_le _)) hkeeps

/-! A narrow column before two that share the rest of eighty cells. -/

def levelled : List Field :=
  [{ name := "level".toList, width := 5 }, { name := "name".toList },
    { name := "message".toList }]

theorem fixed_columns_levelled : (ofFields levelled 80 1).columns[0]? = some ("level".toList, 4) := by
  obtain ⟨hkept, hlost, -⟩ := @fixed_columns levelled 80 1 (by decide) 0
    { name := "level".toList, width := 5 } rfl rfl
  refine hlost.resolve_left fun h => ?_
  exact absurd (hkept.mp h) (by decide)

/-- Room for all columns is not enough for one with a width of its own to keep it. -/
theorem exists_fixed_column_narrowed :
    ¬ ∀ (fields : List Field) (width gap : Nat),
      fixedWidth fields + fields.countP Field.isAuto + (fields.length - 1) * gap ≤ width →
        ∀ (i : Nat) (f : Field), fields[i]? = some f → f.isAuto = false →
          (ofFields fields width gap).columns[i]? = some (f.name, f.width) := by
  intro hkeeps
  have hkept := hkeeps levelled 80 1 (by decide) 0 { name := "level".toList, width := 5 } rfl rfl
  have hlost : (ofFields levelled 80 1).columns[0]? = some ("level".toList, 4) := by decide +kernel
  rw [hlost] at hkept
  exact absurd hkept (by decide)

end LogLine.Plan
