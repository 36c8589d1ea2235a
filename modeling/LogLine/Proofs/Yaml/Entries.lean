-- SUMMARY: The entries of a mapping with any keys come in the order of their keys.
import LogLine.Yaml.Value
import Mathlib.Data.Char
import Mathlib.Data.List.Lex

/-!
# Entries in order

The entries that are read from a mapping are sorted by their keys, and no key stands twice.
-/

namespace LogLine.Yaml.Document

variable {α : Type} {table : List (Text × α)}

/-- Entries in the order of their keys, each key once. -/
def Ordered (table : List (Text × α)) : Prop := (table.map Prod.fst).Pairwise (· < ·)

theorem Ordered.nodup (h : Ordered table) : (table.map Prod.fst).Nodup := h.imp ne_of_lt

theorem mem_keys_insertSorted {key k : Text} {value : α}
    (h : k ∈ (insertSorted key value table).map Prod.fst) :
    k = key ∨ k ∈ table.map Prod.fst := by
  induction table with
  | nil => exact .inl (List.mem_singleton.mp h)
  | cons entry table ih =>
    rw [insertSorted] at h
    split_ifs at h with hbefore hsame
    · exact List.mem_cons.mp h
    · exact (List.mem_cons.mp h).imp_right (List.mem_cons_of_mem _)
    · rcases List.mem_cons.mp h with rfl | h
      · exact .inr List.mem_cons_self
      · exact (ih h).imp_right (List.mem_cons_of_mem _)

theorem Ordered.insertSorted (h : Ordered table) (key : Text) (value : α) :
    Ordered (insertSorted key value table) := by
  induction table with
  | nil => exact List.pairwise_singleton _ _
  | cons entry table ih =>
    obtain ⟨hfirst, hrest⟩ := List.pairwise_cons.mp h
    rw [Document.insertSorted]
    split_ifs with hbefore hsame
    · refine List.pairwise_cons.mpr ⟨fun k hk => ?_, h⟩
      rcases List.mem_cons.mp hk with rfl | hk
      · exact hbefore
      · exact lt_trans hbefore (hfirst k hk)
    · subst hsame
      exact h
    · refine List.pairwise_cons.mpr ⟨fun k hk => ?_, ih hrest⟩
      rcases mem_keys_insertSorted hk with rfl | hk
      · exact lt_of_le_of_ne (not_lt.mp hbefore) (Ne.symm hsame)
      · exact hfirst k hk

theorem ordered_of_table? {f : Of α} {d : Document} {node : Node}
    (h : table? f d node = some table) : Ordered table := by
  simp only [table?, Option.bind_eq_bind, Option.bind_eq_some_iff] at h
  obtain ⟨entries, -, values, -, hvalues⟩ := h
  cases hvalues
  have hfold (start : List (Text × α)) (hstart : Ordered start) :
      Ordered (values.foldl (fun table e => Document.insertSorted e.1 e.2 table) start) := by
    induction values generalizing start with
    | nil => exact hstart
    | cons e values ih => exact ih _ (hstart.insertSorted e.1 e.2)
  exact hfold [] .nil

/-- A member that is read without being optional was read from its node, if it is there. -/
theorem exists_of_member?_map_some {f : Of α} {d : Document} {entries : List (Text × Node)}
    {key : String} {value : Option α}
    (h : member? (fun d node => (f d node).map some) d entries key = some value) :
    value = none ∨ ∃ node a, f d node = some a ∧ value = some a := by
  unfold member? at h
  split at h
  · next node _ =>
    obtain ⟨a, ha, rfl⟩ := Option.map_eq_some_iff.mp h
    exact .inr ⟨node, a, ha, rfl⟩
  · exact .inl (Option.some.inj h).symm

end LogLine.Yaml.Document
