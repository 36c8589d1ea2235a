-- SUMMARY: Which texts are numerals of a base, and the numbers that they write.
import LogLine.Text.Blank
import Mathlib.Data.Nat.Digits.Lemmas

/-!
# Numerals

A numeral is a list of digits, one at least. A digit stands in the place of its value
among the digits, and the number has these values as its digits. Nothing else is read as a
number, and no digit is a blank.
-/

namespace LogLine.Text

/-- The digits of the bases up to sixteen, in their order. -/
def digitChars : List Char :=
  ['0', '1', '2', '3', '4', '5', '6', '7', '8', '9', 'a', 'b', 'c', 'd', 'e', 'f']

/-- The place of a character among the digits, whose letters may be of either case; sixteen for
    any other character. -/
def place (c : Char) : Nat := digitChars.idxOf c.toLower

/-- Digits of a base, one at least, and the number that they write. -/
structure Writes (base : Nat) (t : Text) (n : Nat) : Prop where
  ne_nil : t ≠ []
  digits : ∀ c ∈ t, place c < base
  value : Nat.ofDigits base (t.reverse.map place) = n

theorem of_ascii {p : Char → Prop} (h : ∀ n < 128, p (Char.ofNat n)) {c : Char}
    (hc : c.toNat < 128) : p c := by
  rw [← Char.ofNat_toNat c]
  exact h c.toNat hc

theorem toNat_lt_of_place_lt {c : Char} (h : place c < 16) : c.toNat < 128 := by
  have hmem : c.toLower ∈ digitChars := List.idxOf_lt_length_iff.mp h
  have hall : ∀ d ∈ digitChars, d.toNat < 128 := List.forall_iff_forall_mem.mp (by decide)
  have hlower : c.toLower.toNat < 128 := hall _ hmem
  refine Nat.lt_of_not_le fun hge => ?_
  have hsame : c.toLower = c := by
    refine dif_neg fun hupper => ?_
    have hle : c.toNat ≤ 'Z'.toNat := hupper.2
    exact absurd (hge.trans hle) (by decide)
  exact absurd (hsame ▸ hlower) (Nat.not_lt.mpr hge)

/-- The value of a digit is its place. -/
theorem digitValue?_eq (c : Char) :
    digitValue? c = if place c < 16 then some (place c) else none := by
  rcases Nat.lt_or_ge c.toNat 128 with hascii | hother
  · exact of_ascii (p := fun c => digitValue? c = if place c < 16 then some (place c) else none)
      (by decide +kernel) hascii
  · have hbound {d : Char} (hd : d.toNat < 128) : ¬ c ≤ d := by
      intro hle
      have hle : c.toNat ≤ d.toNat := hle
      omega
    have hplace : ¬ place c < 16 :=
      fun h => absurd (toNat_lt_of_place_lt h) (Nat.not_lt.mpr hother)
    rw [digitValue?, if_neg fun h => hbound (by decide) h.2, if_neg fun h => hbound (by decide) h.2,
      if_neg fun h => hbound (by decide) h.2, if_neg hplace]

variable {base : Nat}

theorem digit?_eq (hbase : base ≤ 16) (c : Char) :
    digit? base c = if place c < base then some (place c) else none := by
  rw [digit?, digitValue?_eq]
  by_cases hdigit : place c < base
  · rw [if_pos (by omega), if_pos hdigit, Option.filter_some, if_pos (by simpa using hdigit)]
  · rw [if_neg hdigit]
    split
    · rw [Option.filter_some, if_neg (by simpa using hdigit)]
    · rfl

theorem number?_eq_some_iff (hbase : base ≤ 16) {t : Text} {n : Nat} :
    number? base t = some n ↔ Writes base t n := by
  have hfold : ∀ n, (t.foldlM (fun n c => (digit? base c).map (base * n + ·)) 0 = some n) ↔
      (∀ c ∈ t, place c < base) ∧ Nat.ofDigits base (t.reverse.map place) = n := by
    induction t using List.reverseRecOn with
    | nil => simp
    | append_singleton t c ih =>
      intro n
      simp only [List.foldlM_append, List.foldlM_cons, List.foldlM_nil, Option.bind_eq_bind,
        Option.bind_eq_some_iff, ih, List.forall_mem_append, List.forall_mem_singleton,
        List.reverse_append, List.reverse_singleton, List.singleton_append, List.map_cons,
        Nat.ofDigits_cons]
      rw [digit?_eq hbase]
      by_cases hdigit : place c < base
      · simp [hdigit, Nat.add_comm]
      · simp [hdigit]
  cases t with
  | nil => exact ⟨nofun, fun h => absurd rfl h.ne_nil⟩
  | cons c t =>
    exact (hfold n).trans ⟨fun h => ⟨List.cons_ne_nil c t, h.1, h.2⟩, fun h => ⟨h.digits, h.value⟩⟩

/-- A zero before other digits does not count. -/
theorem number?_zero_cons (hpos : 0 < base) (hbase : base ≤ 16) {t : Text} (h : t ≠ []) :
    number? base ('0' :: t) = number? base t := by
  have hzero : digit? base '0' = some 0 := by
    have hplace : place '0' = 0 := by decide
    rw [digit?_eq hbase, hplace, if_pos hpos]
  cases t with
  | nil => exact absurd rfl h
  | cons c t => simp only [number?, List.foldlM_cons, hzero, Option.map_some, Option.bind_eq_bind,
      Option.bind_some, Nat.mul_zero, Nat.add_zero]

/-! ## Bytes and blanks -/

/-- Digits of a base, one at least, that write a number of one byte. -/
def WritesByte (base : Nat) (t : Text) : Prop := ∃ n < 256, Writes base t n

theorem WritesByte.ne_plus {t : Text} (hbase : base ≤ 16) (h : WritesByte base t) : '+' ∉ t := by
  obtain ⟨n, -, hwrites⟩ := h
  intro hmem
  have hplace : place '+' < base := hwrites.digits '+' hmem
  have hplus : place '+' = 16 := by decide
  omega

theorem trim_of_not_blank {t : Text} (h : ∀ c ∈ t, isBlank c = false) : trim t = t := by
  have hkeep {u : Text} (hu : ∀ c ∈ u, isBlank c = false) : u.dropWhile isBlank = u := by
    cases u with
    | nil => rfl
    | cons c u => exact List.dropWhile_cons_of_neg (by simp [hu c List.mem_cons_self])
  rw [trim, trimLeft, hkeep h, trimRight, hkeep fun c hc => h c (List.mem_reverse.mp hc),
    List.reverse_reverse]

theorem isBlank_of_place_lt {c : Char} (h : place c < 16) : isBlank c = false := by
  have hdigit : place c < 16 → isBlank c = false :=
    of_ascii (p := fun c => place c < 16 → isBlank c = false) (by decide +kernel)
      (toNat_lt_of_place_lt h)
  exact hdigit h

end LogLine.Text
