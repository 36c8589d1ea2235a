-- SUMMARY: Cutting a text at a separator and joining parts undo one another.
import LogLine.Text.Basic

/-!
# Parts

A text that is cut at a separator has one part more than it has separators, and
joining the parts gives it back. Parts without the separator can be told apart
again after they were joined. A separator inside a text cuts it into the parts
before it and the parts after it. A character of what is joined comes from a part
or is the separator.
-/

namespace LogLine.Text

theorem join_singleton (sep t : Text) : join sep [t] = t := List.intercalate_singleton

theorem join_cons_cons (sep : Char) (t u : Text) (ts : List Text) :
    join [sep] (t :: u :: ts) = t ++ sep :: join [sep] (u :: ts) := by
  rw [join, List.intercalate_cons_cons, List.append_assoc, List.singleton_append]
  rfl

theorem join_cons (sep t : Text) (ts : List Text) :
    join sep (t :: ts) = t ++ ts.flatMap (sep ++ ·) := by
  induction ts generalizing t with
  | nil => simp [join]
  | cons u ts ih =>
    have hrest := ih u
    rw [join] at hrest ⊢
    rw [List.intercalate_cons_cons, hrest, List.flatMap_cons]
    simp only [List.append_assoc]

theorem mem_of_mem_join {c sep : Char} {ts : List Text} (h : c ∈ join [sep] ts) :
    c = sep ∨ ∃ t ∈ ts, c ∈ t := by
  induction ts with
  | nil => exact absurd h List.not_mem_nil
  | cons t ts ih =>
    cases ts with
    | nil => exact .inr ⟨t, List.mem_singleton_self t, join_singleton [sep] t ▸ h⟩
    | cons u ts =>
      rw [join_cons_cons, List.mem_append, List.mem_cons] at h
      rcases h with h | h | h
      · exact .inr ⟨t, List.mem_cons_self, h⟩
      · exact .inl h
      · obtain hsep | ⟨part, hpart, hc⟩ := ih h
        · exact .inl hsep
        · exact .inr ⟨part, List.mem_cons_of_mem t hpart, hc⟩

theorem split_eq_splitOn (sep : Char) (t : Text) : split sep t = t.splitOn sep := by
  induction t with
  | nil => rfl
  | cons c t ih =>
    rw [split, ih, List.splitOn_cons_eq_if_modifyHead]
    by_cases h : c = sep
    · rw [if_pos h, if_pos (beq_iff_eq.mpr h)]
    · rw [if_neg h, if_neg (by simpa using h)]
      cases hparts : t.splitOn sep with
      | nil => exact absurd hparts (List.splitOn_ne_nil sep t)
      | cons part parts => rfl

theorem split_append_cons (sep : Char) (a b : Text) :
    split sep (a ++ sep :: b) = split sep a ++ split sep b := by
  simp only [split_eq_splitOn, List.splitOn_append_cons_self]

theorem split_of_not_mem {sep : Char} {t : Text} (h : sep ∉ t) : split sep t = [t] := by
  rw [split_eq_splitOn, List.splitOn_eq_singleton h]

theorem join_split (sep : Char) (t : Text) : join [sep] (split sep t) = t := by
  rw [join, split_eq_splitOn, List.intercalate_splitOn]

theorem split_ne_nil (sep : Char) (t : Text) : split sep t ≠ [] := by
  rw [split_eq_splitOn]
  exact List.splitOn_ne_nil sep t

/-- No part has the separator in it. -/
theorem not_mem_of_mem_split {sep : Char} {t part : Text} (h : part ∈ split sep t) :
    sep ∉ part := by
  induction t generalizing part with
  | nil =>
    rw [List.mem_singleton.mp h]
    exact List.not_mem_nil
  | cons c t ih =>
    rw [split] at h
    split at h
    · rcases List.mem_cons.mp h with rfl | h
      · exact List.not_mem_nil
      · exact ih h
    · next hc =>
      split at h
      · next hnil => exact absurd hnil (split_ne_nil sep t)
      · next first parts hparts =>
        rw [hparts] at ih
        rcases List.mem_cons.mp h with rfl | h
        · simp only [List.mem_cons, not_or]
          exact ⟨Ne.symm hc, ih List.mem_cons_self⟩
        · exact ih (List.mem_cons_of_mem first h)

end LogLine.Text
