-- SUMMARY: The width of texts in parts, and texts without characters of two cells.
import LogLine.Width.Cells
import Mathlib.Algebra.Order.BigOperators.Group.List
import Mathlib.Algebra.Order.Group.Nat
import Mathlib.Data.Nat.Cast.Basic

/-!
# Widths of texts

The width of a text is the sum over its parts. A text without characters of two
cells is at most as wide as it has characters.
-/

namespace LogLine

theorem SoftHyphen.width_le_one (hyphen : SoftHyphen) : hyphen.width ≤ 1 := by
  cases hyphen <;> decide

/-- A character takes two cells, or one at most. -/
theorem Width.getD_ofChar?_le_one {hyphen : SoftHyphen} {c : Char}
    (h : Width.ofChar? hyphen c ≠ some 2) : (Width.ofChar? hyphen c).getD 0 ≤ 1 := by
  have hhyphen := hyphen.width_le_one
  unfold Width.ofChar? Width.ofCodePoint? at h ⊢
  split_ifs at h ⊢ <;> simp_all

theorem Width.ofChar?_space (hyphen : SoftHyphen) : Width.ofChar? hyphen ' ' = some 1 := by
  cases hyphen <;> decide +kernel

namespace Text

variable (hyphen : SoftHyphen)

/-- No character of the text takes two cells. -/
def Narrow (t : Text) : Prop := ∀ c ∈ t, Width.ofChar? hyphen c ≠ some 2

instance (t : Text) : Decidable (Narrow hyphen t) :=
  List.decidableBAll (fun c => Width.ofChar? hyphen c ≠ some 2) t

@[simp] theorem width_nil : width hyphen [] = 0 := rfl

@[simp] theorem width_append (t u : Text) :
    width hyphen (t ++ u) = width hyphen t + width hyphen u := by
  simp [width]

@[simp] theorem width_spaces (n : Nat) : width hyphen (List.replicate n ' ') = n := by
  simp [width, Width.ofChar?_space]

theorem width_le_length {t : Text} (h : Narrow hyphen t) :
    width hyphen t ≤ t.length := by
  have hle := List.sum_le_card_nsmul (t.map fun c => (Width.ofChar? hyphen c).getD 0) 1 (by
    intro w hw
    obtain ⟨c, hc, rfl⟩ := List.mem_map.mp hw
    exact Width.getD_ofChar?_le_one (h c hc))
  simpa [width] using hle

theorem width_flatMap {α : Type} (f : α → Text) (xs : List α) :
    width hyphen (xs.flatMap f) = (xs.map fun x => width hyphen (f x)).sum := by
  induction xs with
  | nil => rfl
  | cons x xs ih => rw [List.flatMap_cons, width_append, ih, List.map_cons, List.sum_cons]

end Text

end LogLine
