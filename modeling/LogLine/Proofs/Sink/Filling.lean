-- SUMMARY: A stream that fills up holds the beginning of what memory holds.
import LogLine.Sink.Stream
import Mathlib.Data.List.Basic

/-!
# Streams that fill up

The parts of a line are written one after the other, and a stream may be full in the
middle of any of them, or right between two. It takes what fits even of a part that it
fails at, so once it failed it is full, and takes nothing of any later line. Whatever
lines are written, it holds the beginning of what memory holds of them.
-/

namespace LogLine

/-! ## Bytes -/

@[simp] theorem Text.utf8_append (t u : Text) : (t ++ u).utf8 = t.utf8 ++ u.utf8 :=
  List.flatMap_append

/-- Cutting what something is added to does not show if the whole is cut at the same place. -/
theorem take_take_append {α : Type} (n : Nat) (xs ys : List α) :
    (xs.take n ++ ys).take n = (xs ++ ys).take n := by
  rcases Nat.le_total xs.length n with hle | hle
  · rw [List.take_of_length_le hle]
  · rw [List.take_append_of_le_length hle, List.take_append_of_le_length (by simp [hle]),
      List.take_take, Nat.min_self]

/-! ## Lines -/

theorem Line.record_eq (line : Line) : line.record = line.text ++ '\n' :: line.trailer.getD [] := by
  unfold Line.record Line.parts
  cases line.trailer <;> simp

/-- Memory after lines in turn. -/
def Memory.after (m : Memory) (lines : List Line) : Memory := lines.foldl Memory.write m

namespace Stream

variable {s : Stream} {capacity : Nat}

/-- A stream after lines in turn, whether they fit or not. -/
def after (s : Stream) (lines : List Line) : Stream := lines.foldl (fun s l => (s.write l).1) s

/-- The number of lines that fit when they are written in turn. -/
def fitting (s : Stream) : List Line → Nat
  | [] => 0
  | l :: lines => (if (s.write l).2 then 1 else 0) + (s.write l).1.fitting lines

/-! ## Writing -/

/-- A text is written as far as the stream has room, and it is written completely if it fits. -/
theorem put_eq (hcapacity : s.capacity = some capacity) (hroom : s.bytes.length ≤ capacity)
    (t : Text) :
    s.put t = ({ s with bytes := (s.bytes ++ t.utf8).take capacity },
      decide ((s.bytes ++ t.utf8).length ≤ capacity)) := by
  have htaken : s.accepted t = t.utf8.take (capacity - s.bytes.length) := by
    rw [accepted, hcapacity]
  have hfits : ((s.accepted t).length == t.utf8.length) =
      decide ((s.bytes ++ t.utf8).length ≤ capacity) := by
    rw [htaken, Bool.eq_iff_iff, beq_iff_eq, decide_eq_true_eq, List.length_take,
      List.length_append]
    omega
  rw [put, hfits, htaken, List.take_append, List.take_of_length_le hroom]

/-- Texts in turn are written as far as the stream has room for all of them together. -/
theorem putAll_eq (hcapacity : s.capacity = some capacity) (hroom : s.bytes.length ≤ capacity)
    (ts : List Text) :
    s.putAll ts = ({ s with bytes := (s.bytes ++ Text.utf8 ts.flatten).take capacity },
      decide ((s.bytes ++ Text.utf8 ts.flatten).length ≤ capacity)) := by
  induction ts generalizing s with
  | nil => simp [putAll, Text.utf8, List.take_of_length_le hroom, hroom]
  | cons t ts ih =>
    rw [putAll, put_eq hcapacity hroom, List.flatten_cons, Text.utf8_append, ← List.append_assoc]
    by_cases hfits : (s.bytes ++ t.utf8).length ≤ capacity
    · simp only [decide_eq_true hfits, List.take_of_length_le hfits]
      exact ih (s := { s with bytes := s.bytes ++ t.utf8 }) hcapacity hfits
    · -- The stream is full, so nothing of what follows could have been taken.
      have hfull : capacity ≤ (s.bytes ++ t.utf8).length := Nat.le_of_not_le hfits
      have hmore : ¬ (s.bytes ++ t.utf8 ++ Text.utf8 ts.flatten).length ≤ capacity := by
        rw [List.length_append]
        omega
      simp only [decide_eq_false hfits, decide_eq_false hmore, List.take_append_of_le_length hfull]

theorem write_eq (hcapacity : s.capacity = some capacity) (hroom : s.bytes.length ≤ capacity)
    (l : Line) :
    s.write l =
      if (s.bytes ++ l.record.utf8).length ≤ capacity then
        ({ s with bytes := s.bytes ++ l.record.utf8, flushes := s.flushes + 1 }, true)
      else ({ s with bytes := (s.bytes ++ l.record.utf8).take capacity }, false) := by
  have hall : s.putAll l.parts = ({ s with bytes := (s.bytes ++ l.record.utf8).take capacity },
      decide ((s.bytes ++ l.record.utf8).length ≤ capacity)) :=
    putAll_eq hcapacity hroom l.parts
  rw [write, hall]
  by_cases hfits : (s.bytes ++ l.record.utf8).length ≤ capacity
  · simp only [hfits, decide_true, List.take_of_length_le, if_true]
  · simp only [hfits, decide_false, if_false]

theorem flushes_putAll (s : Stream) (ts : List Text) : (s.putAll ts).1.flushes = s.flushes := by
  induction ts generalizing s with
  | nil => rfl
  | cons t ts ih =>
    rw [putAll]
    split
    · next s' hput =>
      have hs' : s'.flushes = s.flushes := (congrArg (·.1.flushes) hput).symm
      rw [ih, hs']
    · next s' hput => exact (congrArg (·.1.flushes) hput).symm

/-- A write flushes once if the line fits, and not at all otherwise. -/
theorem flushes_write (s : Stream) (l : Line) :
    (s.write l).1.flushes = s.flushes + if (s.write l).2 then 1 else 0 := by
  have hparts := s.flushes_putAll l.parts
  rw [write]
  split
  · next s' hall =>
    rw [hall] at hparts
    exact congrArg (· + 1) hparts
  · next s' hall =>
    rw [hall] at hparts
    exact hparts

theorem flushes_after (s : Stream) (lines : List Line) :
    (s.after lines).flushes = s.flushes + s.fitting lines := by
  induction lines generalizing s with
  | nil => rfl
  | cons l lines ih => rw [fitting, ← Nat.add_assoc, ← flushes_write, ← ih]; rfl

/-! ## Streams beside memory -/

/-- A stream of the given capacity holds what fits of the contents of a memory. -/
structure Mirrors (s : Stream) (capacity : Nat) (m : Memory) : Prop where
  capacity_eq : s.capacity = some capacity
  bytes_eq : s.bytes = m.contents.utf8.take capacity

namespace Mirrors

variable {m : Memory}

theorem length_le (h : s.Mirrors capacity m) : s.bytes.length ≤ capacity := by
  rw [h.bytes_eq]
  exact List.length_take_le _ _

/-- A line is written exactly if it fits in the room that is left. -/
theorem write_ok_iff (h : s.Mirrors capacity m) (l : Line) :
    (s.write l).2 = true ↔ l.record.utf8.length ≤ capacity - s.bytes.length := by
  have hroom := h.length_le
  have hfits : (s.bytes ++ l.record.utf8).length ≤ capacity ↔
      l.record.utf8.length ≤ capacity - s.bytes.length := by
    rw [List.length_append]
    omega
  rw [write_eq h.capacity_eq hroom, ← hfits]
  split <;> simp_all

/-- Writing a line to both keeps the stream a mirror, whether the line fits or not. -/
theorem write (h : s.Mirrors capacity m) (l : Line) :
    (s.write l).1.Mirrors capacity (m.write l) := by
  have hbytes : (s.bytes ++ l.record.utf8).take capacity =
      (m.write l).contents.utf8.take capacity := by
    rw [h.bytes_eq, take_take_append, Memory.write, Text.utf8_append]
  rw [write_eq h.capacity_eq h.length_le]
  split
  · next hfits => exact ⟨h.capacity_eq, by rw [← hbytes, List.take_of_length_le hfits]⟩
  · exact ⟨h.capacity_eq, hbytes⟩

theorem after (h : s.Mirrors capacity m) (lines : List Line) :
    (s.after lines).Mirrors capacity (m.after lines) := by
  induction lines generalizing s m with
  | nil => exact h
  | cons l lines ih => exact ih (h.write l)

end Mirrors

/-- After any lines, a stream that was new and empty holds the first bytes of what memory holds, as
    many as it has room for. A line is written to it exactly if its text, the line feed and its
    report fit together in the room that is left. It was flushed once for each line that fitted, and
    not for any other. -/
theorem bytes_after (capacity : Nat) (lines : List Line) (l : Line) :
    let m := ({} : Memory).after lines
    let s := ({ capacity := some capacity } : Stream).after lines
    s.bytes = m.contents.utf8.take (min capacity m.contents.utf8.length) ∧
    ((s.write l).2 = true ↔
      (l.text ++ '\n' :: l.trailer.getD []).utf8.length ≤ capacity - s.bytes.length) ∧
    (s.write l).1.flushes = s.flushes + (if (s.write l).2 then 1 else 0) ∧
    s.flushes = ({ capacity := some capacity } : Stream).fitting lines := by
  intro m s
  have hnew : ({ capacity := some capacity } : Stream).Mirrors capacity {} :=
    ⟨rfl, (List.take_nil).symm⟩
  have hmirrors : s.Mirrors capacity m := hnew.after lines
  refine ⟨?_, ?_, s.flushes_write l, ?_⟩
  · rw [hmirrors.bytes_eq, List.take_eq_take_iff, Nat.min_assoc, Nat.min_self]
  · rw [← Line.record_eq]
    exact hmirrors.write_ok_iff l
  · exact (flushes_after _ lines).trans (Nat.zero_add _)

end Stream

end LogLine
