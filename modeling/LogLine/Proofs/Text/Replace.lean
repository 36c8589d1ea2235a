-- SUMMARY: Replacing a part that a text holds exactly once.
import LogLine.Text.Basic
import Mathlib.Data.List.Infix

/-!
# Replacing a single occurrence

A template holds its placeholder once. Filling it then puts the value between
the two parts of the template, and nothing else changes.
-/

namespace LogLine.Text

/-- A text holds `old` once, between two parts: it starts nowhere before, and does not occur in
    what follows. -/
structure HoldsOnce (old t before after : Text) : Prop where
  eq : t = before ++ old ++ after
  first : ∀ i < before.length, ¬ old <+: t.drop i
  last : ¬ old <:+: after

instance (old t before after : Text) : Decidable (HoldsOnce old t before after) :=
  decidable_of_iff
    (t = before ++ old ++ after ∧ (∀ i < before.length, ¬ old <+: t.drop i) ∧ ¬ old <:+: after)
    ⟨fun h => ⟨h.1, h.2.1, h.2.2⟩, fun h => ⟨h.eq, h.first, h.last⟩⟩

variable {old : Text}

theorem replaceFrom_eq_drop (new : Text) (skip : Nat) (t : Text) :
    replaceFrom old new skip t = replaceFrom old new 0 (t.drop skip) := by
  induction skip generalizing t with
  | zero => rfl
  | succ skip ih =>
    cases t with
    | nil => rfl
    | cons c t => exact ih t

/-- Where `old` does not start, characters stay. -/
theorem replaceFrom_append {before rest : Text}
    (h : ∀ i < before.length, ¬ old <+: (before ++ rest).drop i) (new : Text) :
    replaceFrom old new 0 (before ++ rest) = before ++ replaceFrom old new 0 rest := by
  induction before with
  | nil => rfl
  | cons c before ih =>
    have hhead : ¬ old.isPrefixOf (c :: (before ++ rest)) = true := by
      rw [List.isPrefixOf_iff_prefix]
      exact h 0 (Nat.succ_pos _)
    have htail : ∀ i < before.length, ¬ old <+: (before ++ rest).drop i :=
      fun i hi => h (i + 1) (Nat.succ_lt_succ hi)
    rw [List.cons_append, replaceFrom, if_neg hhead, ih htail, List.cons_append]

/-- An occurrence is passed over as a whole. -/
theorem replaceFrom_self (hold : old ≠ []) (new after : Text) :
    replaceFrom old new 0 (old ++ after) = new ++ replaceFrom old new 0 after := by
  obtain ⟨c, cs, rfl⟩ := List.exists_cons_of_ne_nil hold
  have hmatch : (c :: cs).isPrefixOf (c :: (cs ++ after)) = true := by
    rw [List.isPrefixOf_iff_prefix]
    exact List.prefix_append (c :: cs) after
  rw [List.cons_append, replaceFrom, if_pos hmatch, replaceFrom_eq_drop]
  simp

theorem replace_of_not_infix {t : Text} (h : ¬ old <:+: t) (new : Text) :
    replace old new t = t := by
  have hnowhere : ∀ i < t.length, ¬ old <+: (t ++ []).drop i := by
    intro i _ hstart
    rw [List.append_nil] at hstart
    exact h (hstart.isInfix.trans (List.drop_suffix i t).isInfix)
  have hreplace := replaceFrom_append hnowhere new
  simpa [replace, replaceFrom] using hreplace

/-- A single occurrence is replaced, and everything else stays. -/
theorem HoldsOnce.replace_eq {t before after : Text} (h : HoldsOnce old t before after)
    (hold : old ≠ []) (new : Text) : replace old new t = before ++ new ++ after := by
  have hfirst : ∀ i < before.length, ¬ old <+: (before ++ (old ++ after)).drop i := by
    have hfirst := h.first
    rwa [h.eq, List.append_assoc] at hfirst
  have hafter : replaceFrom old new 0 after = after := replace_of_not_infix h.last new
  rw [h.eq, replace, List.append_assoc, replaceFrom_append hfirst, replaceFrom_self hold, hafter,
    List.append_assoc]

/-- A part with a character that does not occur before it starts nowhere before. -/
theorem HoldsOnce.of_not_mem {before after : Text} {c : Char} (hold : c ∈ old)
    (hbefore : c ∉ before) (hafter : ¬ old <:+: after) :
    HoldsOnce old (before ++ old ++ after) before after := by
  refine ⟨rfl, fun i hi hstart => ?_, hafter⟩
  rw [List.append_assoc, List.drop_append_of_le_length (Nat.le_of_lt hi)] at hstart
  obtain ⟨rest, hrest⟩ := hstart
  -- The character comes first where the part stands, and where the part would start.
  have hskip : c ∉ before.drop i := fun hmem => hbefore (List.mem_of_mem_drop hmem)
  have hfirst := congrArg (List.idxOf c) hrest
  rw [List.idxOf_append_of_mem hold, List.idxOf_append_of_notMem hskip,
    List.idxOf_append_of_mem hold, List.length_drop] at hfirst
  omega

end LogLine.Text
