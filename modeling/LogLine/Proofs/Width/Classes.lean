-- SUMMARY: The classes of characters that the tables stand for, apart from each other, and widths by class.
import LogLine.Proofs.Width.Search
import LogLine.Width.Cells
import Mathlib.Data.List.TakeWhile

/-!
# Classes of characters

The shipped tables are sorted, so they are the sets of their code points. Format characters,
marks without a cell and wide characters have no code point in common with each other, none
that is unassigned but for some wide ones, and none with the controls and the soft hyphen.
The width of a character is therefore that of its class: in which order the classes are
tried matters only for the wide characters that also count as unassigned.
-/

namespace LogLine.Width

/-! ## Tables without a common code point -/

/-- No code point is in both tables. -/
def Exclusive (a b : Array Interval) : Prop := ∀ u, Covered a u → ¬ Covered b u

/-- Whether the intervals of two sorted lists keep apart. Of the second list, what ends before an
    interval of the first begins is passed over; what comes next has to begin after its end. -/
def apart : List Interval → List Interval → Bool
  | [], _ => true
  | i :: is, js =>
    let later := js.dropWhile (·.precedes i)
    later.head?.all (i.precedes ·) && apart is later

theorem mem_dropWhile_or {i j : Interval} {js : List Interval} (hj : j ∈ js) :
    j ∈ js.dropWhile (·.precedes i) ∨ j.last < i.first := by
  rw [← List.takeWhile_append_dropWhile (p := (·.precedes i)) (l := js)] at hj
  rcases List.mem_append.mp hj with hj | hj
  · exact .inr (by simpa [Interval.precedes] using List.mem_takeWhile_imp hj)
  · exact .inl hj

theorem lt_first_of_all_head? {i : Interval} {later : List Interval}
    (hnext : later.head?.all (i.precedes ·) = true)
    (hordered : later.Pairwise fun i j => i.last < j.first)
    (hne : ∀ j ∈ later, j.first ≤ j.last) : ∀ j ∈ later, i.last < j.first := by
  cases later with
  | nil => exact nofun
  | cons next later =>
    have hnext : i.last < next.first := by simpa [Interval.precedes] using hnext
    exact lt_first_of_mem_cons hnext (hne next List.mem_cons_self) hordered

theorem precedes_of_apart {is js : List Interval} (hapart : apart is js = true)
    (his : is.Pairwise fun i j => i.last < j.first) (hjs : js.Pairwise fun i j => i.last < j.first)
    (hne : ∀ i ∈ is, i.first ≤ i.last) (hne' : ∀ j ∈ js, j.first ≤ j.last) :
    ∀ i ∈ is, ∀ j ∈ js, i.last < j.first ∨ j.last < i.first := by
  induction is generalizing js with
  | nil => exact fun i hi => absurd hi List.not_mem_nil
  | cons i is ih =>
    obtain ⟨hnext, hrest⟩ := Bool.and_eq_true_iff.mp hapart
    obtain ⟨hi, his⟩ := List.pairwise_cons.mp his
    obtain ⟨hne, hnes⟩ := List.forall_mem_cons.mp hne
    have hsub := List.dropWhile_sublist (·.precedes i) (l := js)
    have hne' : ∀ j ∈ js.dropWhile (·.precedes i), j.first ≤ j.last :=
      fun j hj => hne' j (hsub.subset hj)
    have hlater := lt_first_of_all_head? hnext (hjs.sublist hsub) hne'
    refine List.forall_mem_cons.mpr ⟨fun j hj => (mem_dropWhile_or hj).imp (hlater j) id, ?_⟩
    intro i' hi' j hj
    rcases mem_dropWhile_or hj with hj | hbefore
    · exact ih hrest his (hjs.sublist hsub) hnes hne' i' hi' j hj
    · -- what is passed over ends before `i` begins, and so before anything after `i` does
      have hafter := hi i' hi'
      exact .inr (by omega)

theorem exclusive_of_apart {a b : Array Interval} (ha : Sorted a) (hb : Sorted b)
    (hapart : apart a.toList b.toList = true) : Exclusive a b := by
  rintro u ⟨i, hi, hcovers⟩ ⟨j, hj, hcovers'⟩
  have hkept := precedes_of_apart hapart ha.ordered hb.ordered
    (fun i hi => ha.nonempty i (Array.mem_toList_iff.mp hi))
    (fun j hj => hb.nonempty j (Array.mem_toList_iff.mp hj))
    i (Array.mem_toList_iff.mpr hi) j (Array.mem_toList_iff.mpr hj)
  rw [Interval.covers_iff] at hcovers hcovers'
  omega

/-! ## The shipped tables -/

theorem sorted_ambiguous : Sorted ambiguous :=
  sorted_of_isChain (by decide +kernel) (by decide +kernel)

/-- The characters that are classified before any table is asked: the null character, the other
    controls and the soft hyphen. -/
def IsSpecial (u : Nat) : Prop := u < 0x20 ∨ (0x7F ≤ u ∧ u < 0xA0) ∨ u = 0xAD

/-- The classes of characters that the tables decide. -/
inductive TableClass where
  | formatting | combining | doubleWidth | unassigned
deriving DecidableEq, Repr

namespace TableClass

def table : TableClass → Array Interval
  | formatting => Width.formatting
  | combining => Width.combining
  | doubleWidth => Width.doubleWidth
  | unassigned => Width.unassigned

/-- The cells a character of the class takes. -/
def cells? : TableClass → Option Nat
  | formatting => none
  | combining => some 0
  | doubleWidth => some 2
  | unassigned => none

theorem sorted_table (k : TableClass) : Sorted k.table := by
  cases k <;> exact sorted_of_isChain (by decide +kernel) (by decide +kernel)

theorem inTable_iff (k : TableClass) (u : Nat) : inTable k.table u = true ↔ Covered k.table u :=
  k.sorted_table.inTable_iff u

/-- No table begins before the letters with marks, which come after the soft hyphen. -/
theorem not_isSpecial {k : TableClass} {u : Nat} (h : Covered k.table u) : ¬ IsSpecial u := by
  have hbound : 0xAD < u := by
    obtain ⟨i, hi, hcovers⟩ := h
    have hfirst : ∀ i ∈ k.table.toList, 0xAD < i.first := by cases k <;> decide +kernel
    have hlow := hfirst i (Array.mem_toList_iff.mpr hi)
    exact Nat.lt_of_lt_of_le hlow ((Interval.covers_iff i u).mp hcovers).1
  unfold IsSpecial
  omega

/-- Two tables have no common code point, unless they are those of the wide and of the unassigned
    characters. -/
theorem exclusive_of_ne {j k : TableClass} (hne : j ≠ k)
    (hwide : (j, k) ≠ (doubleWidth, unassigned)) (hwide' : (j, k) ≠ (unassigned, doubleWidth)) :
    Exclusive j.table k.table := by
  refine exclusive_of_apart j.sorted_table k.sorted_table ?_
  revert hne hwide hwide'
  cases j <;> cases k <;> decide +kernel

theorem eq_or_of_covered {j k : TableClass} {u : Nat} (hj : Covered j.table u)
    (hk : Covered k.table u) :
    j = k ∨ (j, k) = (doubleWidth, unassigned) ∨ (j, k) = (unassigned, doubleWidth) := by
  by_contra h
  simp only [not_or] at h
  exact exclusive_of_ne h.1 h.2.1 h.2.2 u hj hk

/-- Some code points are in both of these tables, so wide characters have to be tried first. -/
theorem not_exclusive_doubleWidth_unassigned :
    ¬ Exclusive Width.doubleWidth Width.unassigned := fun h =>
  h 0x4DB6 ((doubleWidth.inTable_iff _).mp (by decide +kernel))
    ((unassigned.inTable_iff _).mp (by decide +kernel))

/-! ## The order of the tests -/

/-- The cells by the first class of an order whose table has the code point; one cell if none
    has. -/
def cellsBy? (order : List TableClass) (u : Nat) : Option Nat :=
  match order.find? fun k => inTable k.table u with
  | some k => k.cells?
  | none => some 1

/-- An order in which every class is tried, the unassigned characters after the wide ones. -/
structure IsOrder (order : List TableClass) : Prop where
  complete : ∀ k, k ∈ order
  unassigned_last : doubleWidth ∈ order.takeWhile (· ≠ unassigned)

/-- The class that decides about a code point: a class that has it, the unassigned characters only
    if it is not wide. -/
structure Decides (k : TableClass) (u : Nat) : Prop where
  covered : Covered k.table u
  not_wide : k = unassigned → ¬ Covered Width.doubleWidth u

theorem exists_decides {k : TableClass} {u : Nat} (h : Covered k.table u) :
    ∃ k : TableClass, k.Decides u := by
  by_cases hwide : Covered Width.doubleWidth u
  · exact ⟨doubleWidth, hwide, nofun⟩
  · exact ⟨k, h, fun _ => hwide⟩

variable {order : List TableClass}

/-- In every order the class that decides is the first to have the code point. -/
theorem Decides.find?_eq {k : TableClass} {u : Nat} (h : k.Decides u) (horder : IsOrder order) :
    (order.find? fun k => inTable k.table u) = some k := by
  cases hfind : order.find? fun k => inTable k.table u with
  | none =>
    have hmissed := List.find?_eq_none.mp hfind k (horder.complete k)
    exact absurd ((k.inTable_iff u).mpr h.covered) hmissed
  | some j =>
    obtain ⟨hj, before, after, rfl, hbefore⟩ := List.find?_eq_some_iff_append.mp hfind
    rcases eq_or_of_covered ((j.inTable_iff u).mp hj) h.covered with
      rfl | hwide | hwide
    · rfl
    · obtain ⟨rfl, rfl⟩ := Prod.mk.inj hwide
      exact absurd ((doubleWidth.inTable_iff u).mp hj) (h.not_wide rfl)
    · obtain ⟨rfl, rfl⟩ := Prod.mk.inj hwide
      have hfirst := horder.unassigned_last
      rw [List.takeWhile_append, List.takeWhile_cons_of_neg (by simp), List.append_nil] at hfirst
      have hmem : doubleWidth ∈ before := by
        split at hfirst
        · exact hfirst
        · exact (List.takeWhile_sublist _).subset hfirst
      have hwide := hbefore doubleWidth hmem
      rw [(doubleWidth.inTable_iff u).mpr h.covered] at hwide
      cases hwide

theorem Decides.cellsBy?_eq {k : TableClass} {u : Nat} (h : k.Decides u)
    (horder : IsOrder order) : cellsBy? order u = k.cells? := by
  rw [cellsBy?, h.find?_eq horder]

theorem cellsBy?_eq_one {u : Nat} (h : ∀ k : TableClass, ¬ Covered k.table u)
    (order : List TableClass) : cellsBy? order u = some 1 := by
  have hfind : (order.find? fun k => inTable k.table u) = none :=
    List.find?_eq_none.mpr fun k _ hk => h k ((k.inTable_iff u).mp hk)
  rw [cellsBy?, hfind]

/-- All orders give the same width. -/
theorem cellsBy?_congr {order' : List TableClass} (horder : IsOrder order)
    (horder' : IsOrder order') (u : Nat) : cellsBy? order u = cellsBy? order' u := by
  by_cases h : ∃ k : TableClass, Covered k.table u
  · obtain ⟨k, hk⟩ := h
    obtain ⟨k, hk⟩ := exists_decides hk
    rw [hk.cellsBy?_eq horder, hk.cellsBy?_eq horder']
  · have hnone := not_exists.mp h
    rw [cellsBy?_eq_one hnone, cellsBy?_eq_one hnone]

/-- The order in which a width is looked up. -/
def inOrder : List TableClass := [formatting, combining, doubleWidth, unassigned]

theorem isOrder_inOrder : IsOrder inOrder := ⟨fun k => by cases k <;> decide, by decide⟩

end TableClass

/-- A character that is neither a control nor the soft hyphen has the width of its class. -/
theorem ofChar?_eq_cellsBy? (hyphen : SoftHyphen) {c : Char} (h : ¬ IsSpecial c.toNat) :
    ofChar? hyphen c = TableClass.cellsBy? TableClass.inOrder c.toNat := by
  have hvalid : c.toNat.isValidChar := c.valid
  have hcontrol : ¬ (c.toNat < 0x20 ∨ (0x7F ≤ c.toNat ∧ c.toNat < 0xA0)) := by
    unfold IsSpecial at h
    omega
  have hnull : c.toNat ≠ 0 := by omega
  have hhyphen : c.toNat ≠ 0xAD := fun heq => h (.inr (.inr heq))
  rw [ofChar?, ofCodePoint?, if_neg (not_not.mpr hvalid), if_neg hnull, if_neg hcontrol,
    if_neg hhyphen, TableClass.cellsBy?, TableClass.inOrder]
  simp only [List.find?_cons, TableClass.table]
  split_ifs <;> simp_all [TableClass.cells?]

theorem ofChar?_of_decides {k : TableClass} {c : Char} (h : k.Decides c.toNat)
    (hyphen : SoftHyphen) : ofChar? hyphen c = k.cells? := by
  rw [ofChar?_eq_cellsBy? hyphen (TableClass.not_isSpecial h.covered),
    h.cellsBy?_eq TableClass.isOrder_inOrder]

/-- Looking a code point up in a sorted table tells whether one of its intervals covers it. The
    shipped tables are sorted; those of format characters, of marks without a cell and of wide
    characters have no code point in common and neither a control nor the soft hyphen. Whatever
    the soft hyphen takes, format characters have no width, such marks take no cell and wide
    characters two, and all widths are found in any order of the tables in which the unassigned
    characters come after the wide ones. -/
theorem tables_as_sets :
    (∀ table, Sorted table → ∀ u, inTable table u = true ↔ Covered table u) ∧
    (∀ table ∈ [formatting, combining, doubleWidth, ambiguous, unassigned], Sorted table) ∧
    [formatting, combining, doubleWidth].Pairwise Exclusive ∧
    (∀ table ∈ [formatting, combining, doubleWidth], ∀ u, Covered table u → ¬ IsSpecial u) ∧
    (∀ hyphen (c : Char),
      (Covered formatting c.toNat → ofChar? hyphen c = none) ∧
      (Covered combining c.toNat → ofChar? hyphen c = some 0) ∧
      (Covered doubleWidth c.toNat → ofChar? hyphen c = some 2)) ∧
    ∀ order, TableClass.IsOrder order → ∀ hyphen (c : Char), ¬ IsSpecial c.toNat →
      ofChar? hyphen c = TableClass.cellsBy? order c.toNat := by
  refine ⟨fun table h u => h.inTable_iff u, ?_, ?_, ?_, fun hyphen c => ⟨?_, ?_, ?_⟩, ?_⟩
  · have hsorted := TableClass.sorted_table
    simpa using ⟨hsorted .formatting, hsorted .combining, hsorted .doubleWidth, sorted_ambiguous,
      hsorted .unassigned⟩
  · have hfirst : Exclusive formatting combining :=
      TableClass.exclusive_of_ne (j := .formatting) (k := .combining) nofun nofun nofun
    have hsecond : Exclusive formatting doubleWidth :=
      TableClass.exclusive_of_ne (j := .formatting) (k := .doubleWidth) nofun nofun nofun
    have hthird : Exclusive combining doubleWidth :=
      TableClass.exclusive_of_ne (j := .combining) (k := .doubleWidth) nofun nofun nofun
    simp [hfirst, hsecond, hthird]
  · have hspecial (k : TableClass) : ∀ u, Covered k.table u → ¬ IsSpecial u :=
      fun u => TableClass.not_isSpecial
    simpa using ⟨hspecial .formatting, hspecial .combining, hspecial .doubleWidth⟩
  · exact fun h => ofChar?_of_decides (k := .formatting) ⟨h, nofun⟩ hyphen
  · exact fun h => ofChar?_of_decides (k := .combining) ⟨h, nofun⟩ hyphen
  · exact fun h => ofChar?_of_decides (k := .doubleWidth) ⟨h, nofun⟩ hyphen
  · intro order horder hyphen c hc
    rw [ofChar?_eq_cellsBy? hyphen hc,
      TableClass.cellsBy?_congr TableClass.isOrder_inOrder horder]

/-! A gap between two intervals, a mark, and a wide character that also counts as unassigned. -/

theorem tables_as_sets_gap :
    inTable #[⟨10, 20⟩, ⟨30, 30⟩] 25 = false ∧ ofChar? .unicode '\u0301' = some 0 ∧
    TableClass.cellsBy? [.doubleWidth, .unassigned, .combining, .formatting] 0x4DB6 = some 2 := by
  obtain ⟨hsearch, -, -, -, hwidths, horder⟩ := tables_as_sets
  have hsorted : Sorted #[⟨10, 20⟩, ⟨30, 30⟩] := sorted_of_isChain (by decide) (by decide)
  have hgap : ¬ Covered #[⟨10, 20⟩, ⟨30, 30⟩] 25 := by simp [Covered, Interval.covers]
  have hmark : Covered combining '\u0301'.toNat :=
    (TableClass.combining.inTable_iff _).mp (by decide +kernel)
  have hwide : Covered doubleWidth '\u4DB6'.toNat :=
    (TableClass.doubleWidth.inTable_iff _).mp (by decide +kernel)
  refine ⟨?_, (hwidths .unicode _).2.1 hmark, ?_⟩
  · rw [Bool.eq_false_iff]
    exact fun h => hgap ((hsearch _ hsorted 25).mp h)
  · have hfound := horder [.doubleWidth, .unassigned, .combining, .formatting]
      ⟨fun k => by cases k <;> decide, by decide⟩ .unicode '\u4DB6' (by unfold IsSpecial; decide)
    exact hfound.symm.trans ((hwidths .unicode _).2.2 hwide)

end LogLine.Width
