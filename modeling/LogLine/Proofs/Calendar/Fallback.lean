-- SUMMARY: Where a date pattern is malformed, and what is shown then, checked beforehand or not.
import LogLine.Calendar.Format
import Mathlib.Data.Option.Basic
import Mathlib.Logic.Basic

/-!
# Falling back to elapsed time

A pattern is malformed if reading it comes to a percent sign that no directive begins with.
Such a pattern never gives any text, whatever could be written of it before the malformed
piece. Checking patterns when they are configured is therefore no more than a warning: the
same is shown without the check.
-/

namespace LogLine

namespace DateItem

/-! ## Reading -/

/-- Reading a pattern from its start comes to a place, from which the rest is still to be read. -/
inductive Reaches : (pattern rest : Text) → Prop
  | start {pattern : Text} : Reaches pattern pattern
  | char {c : Char} {pattern rest : Text} (hc : c ≠ '%') (h : Reaches pattern rest) :
      Reaches (c :: pattern) rest
  | directive {pattern rest : Text} {items : List DateItem} {count : Nat}
      (hitems : directive? pattern = some (items, count))
      (h : Reaches (pattern.drop count) rest) : Reaches ('%' :: pattern) rest

theorem ofPatternFrom_eq_drop (skip : Nat) (pattern : Text) :
    ofPatternFrom skip pattern = ofPattern (pattern.drop skip) := by
  induction pattern generalizing skip with
  | nil => cases skip <;> rfl
  | cons c pattern ih =>
    cases skip with
    | zero => rfl
    | succ skip => rw [ofPatternFrom, ih, List.drop_succ_cons]

theorem ofPattern_char {c : Char} (hc : c ≠ '%') (pattern : Text) :
    ofPattern (c :: pattern) = .literal [c] :: ofPattern pattern := by
  rw [ofPattern, ofPatternFrom, if_neg hc]
  rfl

theorem ofPattern_directive {pattern : Text} {items : List DateItem} {count : Nat}
    (h : directive? pattern = some (items, count)) :
    ofPattern ('%' :: pattern) = items ++ ofPattern (pattern.drop count) := by
  rw [ofPattern, ofPatternFrom, if_pos rfl, h, ← ofPatternFrom_eq_drop]

theorem ofPattern_malformed {pattern : Text} (h : directive? pattern = none) :
    ofPattern ('%' :: pattern) = [.malformed] := by
  rw [ofPattern, ofPatternFrom, if_pos rfl, h]

theorem malformed_not_mem_of_ofLetter? {letter : Char} {items : List DateItem}
    (h : ofLetter? letter = some items) : .malformed ∉ items := by
  unfold ofLetter? at h
  split at h <;> cases h <;> decide

theorem malformed_not_mem_of_padded? {padding : Padding} {letter : Char} {items : List DateItem}
    (h : padded? padding letter = some items) : .malformed ∉ items := by
  unfold padded? at h
  split at h <;> cases h
  simp

theorem malformed_not_mem_of_map {read? : Option (List DateItem)} {read : List DateItem × Nat}
    {length : Nat} (hread : ∀ items, read? = some items → .malformed ∉ items)
    (h : read?.map (·, length) = some read) : .malformed ∉ read.1 := by
  obtain ⟨items, hitems, rfl⟩ := Option.map_eq_some_iff.mp h
  exact hread items hitems

/-- A directive never gives a malformed item. -/
theorem malformed_not_mem_of_directive? {pattern : Text} {items : List DateItem} {count : Nat}
    (h : directive? pattern = some (items, count)) : .malformed ∉ items := by
  unfold directive? at h
  -- directives that read a letter, those that give their item as it is, and the empty pattern
  split at h <;> first
    | exact malformed_not_mem_of_map (fun _ => malformed_not_mem_of_padded?) h
    | exact malformed_not_mem_of_map (fun _ => malformed_not_mem_of_ofLetter?) h
    | (obtain ⟨rfl, -⟩ := Prod.mk.inj (Option.some.inj h); decide)
    | cases h

theorem Reaches.malformed_mem {pattern rest : Text} (h : Reaches pattern ('%' :: rest))
    (hrest : directive? rest = none) : .malformed ∈ ofPattern pattern := by
  generalize hplace : '%' :: rest = place at h
  induction h with
  | start => rw [← hplace, ofPattern_malformed hrest]; exact List.mem_singleton_self _
  | char hc _ ih =>
    rw [ofPattern_char hc]
    exact List.mem_cons_of_mem _ (ih hplace)
  | directive hitems _ ih =>
    rw [ofPattern_directive hitems]
    exact List.mem_append_right _ (ih hplace)

/-- A pattern has a malformed item exactly if reading it comes to a percent sign before something
    that is no directive. -/
theorem malformed_mem_ofPattern_iff (pattern : Text) :
    .malformed ∈ ofPattern pattern ↔
      ∃ rest, Reaches pattern ('%' :: rest) ∧ directive? rest = none := by
  refine ⟨fun h => ?_, fun ⟨rest, hreaches, hrest⟩ => hreaches.malformed_mem hrest⟩
  -- a directive is passed over as a whole, so the induction is on the number of characters
  induction hlength : pattern.length using Nat.strongRecOn generalizing pattern with
  | ind length ih =>
    subst hlength
    cases pattern with
    | nil => cases h
    | cons c pattern =>
      by_cases hc : c = '%'
      · subst hc
        cases hread : directive? pattern with
        | none => exact ⟨pattern, .start, hread⟩
        | some read =>
          obtain ⟨items, count⟩ := read
          rw [ofPattern_directive hread] at h
          have hlater := (List.mem_append.mp h).resolve_left (malformed_not_mem_of_directive? hread)
          have hshorter : (pattern.drop count).length < ('%' :: pattern).length := by
            rw [List.length_drop, List.length_cons]
            omega
          obtain ⟨rest, hreaches, hrest⟩ := ih _ hshorter _ hlater rfl
          exact ⟨rest, .directive hread hreaches, hrest⟩
      · rw [ofPattern_char hc] at h
        have hlater := (List.mem_cons.mp h).resolve_left nofun
        obtain ⟨rest, hreaches, hrest⟩ := ih _ (Nat.lt_succ_self _) _ hlater rfl
        exact ⟨rest, .char hc hreaches, hrest⟩

/-! ## Writing -/

/-- An item that can be written. Whether one can does not depend on the moment. -/
def IsWritten (item : DateItem) : Prop := item ≠ .looseOffset ∧ item ≠ .malformed

instance (item : DateItem) : Decidable item.IsWritten := inferInstanceAs (Decidable (_ ∧ _))

theorem text?_ne_none_iff (m : Moment) (item : DateItem) :
    item.text? m ≠ none ↔ item.IsWritten := by
  cases item <;> simp [text?, IsWritten]

/-- What items give that are written one after the other. -/
def joined (m : Moment) (items : List DateItem) : Text :=
  items.flatMap fun item => (item.text? m).getD []

/-- Items give a text together only if each of them does. -/
theorem textOf?_eq (m : Moment) (items : List DateItem) :
    textOf? m items = if ∀ item ∈ items, item.IsWritten then some (joined m items) else none := by
  induction items with
  | nil => rfl
  | cons item items ih =>
    rw [textOf?, ih]
    by_cases hitem : item.IsWritten
    · obtain ⟨t, ht⟩ := Option.ne_none_iff_exists'.mp ((text?_ne_none_iff m item).mpr hitem)
      by_cases hitems : ∀ item ∈ items, item.IsWritten
      · rw [if_pos hitems, if_pos (List.forall_mem_cons.mpr ⟨hitem, hitems⟩)]
        simp [ht, joined]
      · rw [if_neg hitems, if_neg fun h => hitems (List.forall_mem_cons.mp h).2]
        simp [ht]
    · have hnone : item.text? m = none := by
        by_contra hne
        exact hitem ((text?_ne_none_iff m item).mp hne)
      simp [hnone, hitem]

end DateItem

namespace DateFormat

/-- A pattern shows a reading completely or not at all. -/
theorem text_pattern (pattern : Text) (r : Reading) :
    (DateFormat.pattern pattern).text r =
      if ∀ item ∈ DateItem.ofPattern pattern, item.IsWritten
      then DateItem.joined r.now (DateItem.ofPattern pattern) else elapsedText r := by
  rw [text, pattern?, Option.bind_some, DateItem.textOf?_eq]
  split <;> rfl

/-- The texts that stand for a format by name. -/
def names : List Text := ["TIMESTAMP", "SHORT", "MEDIUM", "LONG", "FULL"].map String.toList

theorem ofText_of_not_mem_names {pattern : Text} (h : pattern ∉ names) (parts : DateParts) :
    ofText pattern parts =
      if .malformed ∈ DateItem.ofPattern pattern then (.elapsed, [badPattern pattern])
      else (.pattern pattern, []) := by
  simp only [names, List.map_cons, List.map_nil, List.mem_cons, List.not_mem_nil, or_false,
    not_or] at h
  obtain ⟨htimestamp, hshort, hmedium, hlong, hfull⟩ := h
  rw [ofText, if_neg htimestamp, DateLength.ofName?, if_neg hshort, if_neg hmedium, if_neg hlong,
    if_neg hfull]

/-- A text that names no format shows every reading in the same way, whether it was checked
    beforehand or is only used as a pattern. If reading it comes to a percent sign that begins no
    directive, both show elapsed time; otherwise both show each of its items, or again elapsed time
    if one of them is never written. -/
theorem text_checked {pattern : Text} (h : pattern ∉ names) (parts : DateParts) (r : Reading) :
    (ofText pattern parts).1.text r = (DateFormat.pattern pattern).text r ∧
    ((∃ rest, DateItem.Reaches pattern ('%' :: rest) ∧ DateItem.directive? rest = none) →
      (ofText pattern parts).1.text r = elapsedText r ∧
      (DateFormat.pattern pattern).text r = elapsedText r) ∧
    (DateFormat.pattern pattern).text r =
      if ∀ item ∈ DateItem.ofPattern pattern, item.IsWritten
      then DateItem.joined r.now (DateItem.ofPattern pattern) else elapsedText r := by
  have hbad : .malformed ∈ DateItem.ofPattern pattern →
      (DateFormat.pattern pattern).text r = elapsedText r := fun hmem => by
    rw [text_pattern, if_neg fun hall => (hall _ hmem).2 rfl]
  have hsame : (ofText pattern parts).1.text r = (DateFormat.pattern pattern).text r := by
    rw [ofText_of_not_mem_names h]
    split
    · next hmem => rw [hbad hmem]; rfl
    · rfl
  refine ⟨hsame, fun hreaches => ?_, text_pattern pattern r⟩
  have hmem := (DateItem.malformed_mem_ofPattern_iff pattern).mpr hreaches
  exact ⟨hsame.trans (hbad hmem), hbad hmem⟩

/-! Most of the pattern could be written before it turns out to be malformed. -/

theorem text_checked_late :
    (ofText "%H:%M %Q %S".toList .time).1.text ⟨⟨0, 0, 0⟩, 1234567⟩ = "1234".toList ∧
    (DateFormat.pattern "%H:%M %Q %S".toList).text ⟨⟨0, 0, 0⟩, 1234567⟩ = "1234".toList := by
  have hhour : DateItem.directive? "H:%M %Q %S".toList = some ([.zeros .hour], 1) := rfl
  have hminute : DateItem.directive? "M %Q %S".toList = some ([.zeros .minute], 1) := rfl
  have hreaches : DateItem.Reaches "%H:%M %Q %S".toList "%Q %S".toList :=
    .directive hhour <| .char (by decide) <| .directive hminute <| .char (by decide) .start
  exact (text_checked (by decide) .time ⟨⟨0, 0, 0⟩, 1234567⟩).2.1 ⟨"Q %S".toList, hreaches, rfl⟩

end DateFormat

end LogLine
