-- SUMMARY: A sorted interval table is searched as the set of the code points in it.
import LogLine.Width.Interval
import Mathlib.Data.List.Chain
import Mathlib.Order.Basic

/-!
# Tables as sets

A table stands for the code points that its intervals cover. In a table whose intervals
are not empty and stand in order, halving finds a code point exactly if it is one of them:
the intervals before the middle end too early, or those after it begin too late.
-/

namespace LogLine.Width

/-- The intervals of a table are not empty, and each ends before all later ones begin. -/
structure Sorted (table : Array Interval) : Prop where
  nonempty : ∀ i ∈ table, i.first ≤ i.last
  ordered : table.toList.Pairwise fun i j => i.last < j.first

/-- One of the intervals of a table covers the code point. -/
def Covered (table : Array Interval) (u : Nat) : Prop := ∃ i ∈ table, i.covers u

theorem Interval.covers_iff (i : Interval) (u : Nat) : i.covers u ↔ i.first ≤ u ∧ u ≤ i.last := by
  simp [covers]

theorem covered_iff {table : Array Interval} {u : Nat} :
    Covered table u ↔ ∃ k, ∃ hk : k < table.size, table[k].first ≤ u ∧ u ≤ table[k].last := by
  simp only [Covered, Array.mem_iff_getElem, Interval.covers_iff]
  constructor
  · rintro ⟨i, ⟨k, hk, rfl⟩, hcovers⟩
    exact ⟨k, hk, hcovers⟩
  · rintro ⟨k, hk, hcovers⟩
    exact ⟨table[k], ⟨k, hk, rfl⟩, hcovers⟩

/-! ## Sorted tables -/

/-- What lies before the first interval lies before all of them. -/
theorem lt_first_of_mem_cons {n : Nat} {next : Interval} {later : List Interval}
    (hnext : n < next.first) (hne : next.first ≤ next.last)
    (hordered : (next :: later).Pairwise fun i j => i.last < j.first) :
    ∀ j ∈ next :: later, n < j.first := by
  refine List.forall_mem_cons.mpr ⟨hnext, fun j hj => ?_⟩
  have hafter := (List.pairwise_cons.mp hordered).1 j hj
  omega

/-- It is enough to compare neighbours. -/
theorem sorted_of_isChain {table : Array Interval}
    (hnonempty : ∀ i ∈ table.toList, i.first ≤ i.last)
    (hchain : table.toList.IsChain fun i j => i.precedes j) : Sorted table := by
  refine ⟨fun i hi => hnonempty i (Array.mem_toList_iff.mpr hi), ?_⟩
  generalize table.toList = intervals at hnonempty hchain
  induction intervals with
  | nil => exact .nil
  | cons i intervals ih =>
    obtain ⟨-, hrest⟩ := List.forall_mem_cons.mp hnonempty
    have hordered := ih hrest hchain.tail
    refine List.pairwise_cons.mpr ⟨?_, hordered⟩
    cases intervals with
    | nil => exact nofun
    | cons next intervals =>
      have hnext : i.last < next.first := by
        simpa [Interval.precedes] using (List.isChain_cons_cons.mp hchain).1
      exact lt_first_of_mem_cons hnext (hrest next List.mem_cons_self) hordered

namespace Sorted

variable {table : Array Interval} (h : Sorted table)

include h

theorem last_lt_first {j k : Nat} (hjk : j < k) (hk : k < table.size) :
    (table[j]).last < (table[k]).first := by
  have hordered := List.pairwise_iff_getElem.mp h.ordered j k (by simp; omega) (by simpa) hjk
  simpa using hordered

theorem first_le_last {k : Nat} (hk : k < table.size) : (table[k]).first ≤ (table[k]).last :=
  h.nonempty _ (Array.getElem_mem hk)

theorem last_le_last {j k : Nat} (hjk : j ≤ k) (hk : k < table.size) :
    (table[j]).last ≤ (table[k]).last := by
  rcases Nat.eq_or_lt_of_le hjk with rfl | hlt
  · exact Nat.le_refl _
  · have hordered := h.last_lt_first hlt hk
    have hk := h.first_le_last hk
    omega

theorem first_le_first {j k : Nat} (hjk : j ≤ k) (hk : k < table.size) :
    (table[j]).first ≤ (table[k]).first := by
  rcases Nat.eq_or_lt_of_le hjk with rfl | hlt
  · exact Nat.le_refl _
  · have hordered := h.last_lt_first hlt hk
    have hj := h.first_le_last (Nat.lt_trans hlt hk)
    omega

end Sorted

/-! ## Halving -/

/-- What is found is covered, whether the table is sorted or not. -/
theorem exists_of_searchBetween {table : Array Interval} {u low high : Nat}
    (hfound : searchBetween table u low high = true) : Covered table u := by
  fun_induction searchBetween table u low high with
  | case1 low high hlow middle bound hbelow ih => exact ih hfound
  | case2 low high hlow middle bound hbelow habove ih => exact ih hfound
  | case3 low high hlow middle bound hbelow habove =>
    exact covered_iff.mpr ⟨middle, bound, Nat.le_of_not_lt habove, Nat.le_of_not_lt hbelow⟩
  | case4 low high hlow => cases hfound

/-- Halving keeps the interval that covers the code point between its bounds. -/
theorem Sorted.searchBetween_eq_true {table : Array Interval} (h : Sorted table)
    {u low high k : Nat} (hsize : k < table.size)
    (hcovers : (table[k]).first ≤ u ∧ u ≤ (table[k]).last)
    (hhigh : high ≤ table.size) (hlow : low ≤ k) (hk : k < high) :
    searchBetween table u low high = true := by
  fun_induction searchBetween table u low high with
  | case1 low high hbounds middle bound hbelow ih =>
    -- all intervals up to the middle end before the code point
    have hafter : middle < k := Nat.lt_of_not_le fun hle => by
      have := h.last_le_last hle bound
      omega
    exact ih hhigh hafter hk
  | case2 low high hbounds middle bound hbelow habove ih =>
    -- all intervals from the middle on begin after it
    have hbefore : k < middle := Nat.lt_of_not_le fun hle => by
      have := h.first_le_first hle hsize
      omega
    exact ih (Nat.le_of_lt bound) hlow hbefore
  | case3 => rfl
  | case4 low high hbounds => exact absurd ⟨Nat.lt_of_le_of_lt hlow hk, hhigh⟩ hbounds

/-- A sorted table has exactly the code points that one of its intervals covers; looking first
    whether they lie between its ends changes nothing. -/
theorem Sorted.inTable_iff {table : Array Interval} (h : Sorted table) (u : Nat) :
    inTable table u = true ↔ Covered table u := by
  unfold inTable
  split
  · next first last hfirst hlast =>
    obtain ⟨hsize, rfl⟩ := Array.getElem?_eq_some_iff.mp hfirst
    rw [Array.back?_eq_getElem?] at hlast
    obtain ⟨hend, rfl⟩ := Array.getElem?_eq_some_iff.mp hlast
    simp only [Bool.and_eq_true, decide_eq_true_eq]
    refine ⟨fun hfound => exists_of_searchBetween hfound.2, fun hcovered => ?_⟩
    obtain ⟨k, hk, hcovers⟩ := covered_iff.mp hcovered
    have hleft := h.first_le_first (Nat.zero_le k) hk
    have hright := h.last_le_last (Nat.le_sub_one_of_lt hk) hend
    exact ⟨⟨Nat.le_trans hleft hcovers.1, Nat.le_trans hcovers.2 hright⟩,
      h.searchBetween_eq_true hk hcovers (Nat.le_refl _) (Nat.zero_le k) hk⟩
  · next hempty =>
    refine ⟨nofun, fun hcovered => ?_⟩
    obtain ⟨k, hk, -⟩ := covered_iff.mp hcovered
    have hsize : 0 < table.size := Nat.lt_of_le_of_lt (Nat.zero_le k) hk
    exact absurd (Array.back?_eq_getElem?.trans (Array.getElem?_eq_getElem (by omega)))
      (hempty _ _ (Array.getElem?_eq_getElem hsize))

end LogLine.Width
