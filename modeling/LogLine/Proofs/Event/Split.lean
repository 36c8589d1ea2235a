-- SUMMARY: A pattern split at its pairs of braces, and the backslashes right before each of them.
import LogLine.Event.Message
import LogLine.Proofs.Text.Replace

/-!
# Patterns split at their braces

What becomes of a pair of braces depends on the backslashes right before it. A split
pattern names them: every pair comes with the text since the last pair and with the
number of backslashes between that text and the pair. Each pattern is split in exactly
one way, and its parts can be told from the split.
-/

namespace LogLine.Message

/-- A pair of braces, which stands for an argument. -/
def braces : Text := ['\x7b', '\x7d']

/-! ## Splits -/

/-- A pair of braces in a pattern: the text before it since the last pair, and the number of all the
    backslashes that stand between them. -/
@[ext]
structure Spot where
  before : Text
  slashes : Nat
  no_braces : ¬ braces <:+: before
  no_slash : before.getLast? ≠ some '\\'

/-- A pattern as its pairs of braces in turn, with the text after the last one. -/
@[ext]
structure Split where
  spots : List Spot
  rest : Text
  no_braces : ¬ braces <:+: rest

namespace Spot

/-- What stands before the pair since the last one. -/
def lead (s : Spot) : Text := s.before ++ List.replicate s.slashes '\\'

def pattern (s : Spot) : Text := s.lead ++ braces

/-- The parts that the pair ends. A single backslash makes it literal; of more, one is dropped. -/
def parts (s : Spot) : List MessagePart :=
  if s.slashes = 1 then [.literal (s.before ++ braces)]
  else [.literal (s.before ++ List.replicate (s.slashes - 1) '\\'), .argument]

end Spot

/-- The pattern that was split. -/
def Split.pattern (s : Split) : Text := s.spots.flatMap Spot.pattern ++ s.rest

/-! ## Texts without braces -/

section Texts

variable {t t' rest rest' : Text}

/-- A text without braces has none either when something follows that does not close a brace. -/
theorem not_prefix_drop (ht : ¬ braces <:+: t) (hrest : rest.head? ≠ some '\x7d') :
    ∀ i < t.length, ¬ braces <+: (t ++ rest).drop i := by
  intro i hi hstart
  obtain ⟨c, u, hu⟩ := List.exists_cons_of_ne_nil
    (List.drop_eq_nil_iff.not.mpr (Nat.not_le.mpr hi))
  obtain ⟨more, hmore⟩ := hstart
  rw [List.drop_append_of_le_length (Nat.le_of_lt hi), hu] at hmore
  cases u with
  | nil =>
    -- The braces would have to close in what follows.
    have hclose : '\x7d' :: more = rest := (List.cons.inj hmore).2
    exact hrest (hclose ▸ rfl)
  | cons d u =>
    obtain ⟨rfl, htail⟩ := List.cons.inj hmore
    obtain ⟨rfl, -⟩ := List.cons.inj htail
    have hmatch : braces <+: t.drop i := ⟨u, hu.symm⟩
    exact ht (hmatch.isInfix.trans (List.drop_suffix i t).isInfix)

theorem head?_braces (rest : Text) : (braces ++ rest).head? ≠ some '\x7d' := by
  simp [braces]

/-- The first pair of braces in a text is where the text without braces before it ends. -/
theorem append_braces_inj (ht : ¬ braces <:+: t) (ht' : ¬ braces <:+: t')
    (h : t ++ (braces ++ rest) = t' ++ (braces ++ rest')) : t = t' ∧ rest = rest' := by
  have hle {u u' v v' : Text} (hu' : ¬ braces <:+: u')
      (huu : u ++ (braces ++ v) = u' ++ (braces ++ v')) : u'.length ≤ u.length := by
    refine Nat.le_of_not_lt fun hlt => not_prefix_drop hu' (head?_braces v') u.length hlt ?_
    rw [← huu, List.drop_left]
    exact List.prefix_append braces v
  have hlength : t.length = t'.length := Nat.le_antisymm (hle ht h.symm) (hle ht' h)
  obtain ⟨rfl, hrest⟩ := List.append_inj h hlength
  exact ⟨rfl, List.append_cancel_left hrest⟩

/-- A text with a pair of braces has a first one. -/
theorem exists_first_braces (h : braces <:+: t) :
    ∃ before after, t = before ++ (braces ++ after) ∧ ¬ braces <:+: before := by
  induction t with
  | nil => simp [braces] at h
  | cons c t ih =>
    by_cases hstart : braces <+: c :: t
    · obtain ⟨after, hafter⟩ := hstart
      exact ⟨[], after, hafter.symm, by simp [braces]⟩
    · obtain ⟨before, after, rfl, hbefore⟩ := ih ((List.infix_cons_iff.mp h).resolve_left hstart)
      refine ⟨c :: before, after, rfl, fun hpair => ?_⟩
      rcases List.infix_cons_iff.mp hpair with hmatch | hpair
      · exact hstart (hmatch.trans (List.prefix_append (c :: before) _))
      · exact hbefore hpair

/-- A text ends with all the backslashes at its end. -/
theorem exists_slashes (t : Text) :
    ∃ before k, t = before ++ List.replicate k '\\' ∧ before.getLast? ≠ some '\\' := by
  induction t using List.reverseRecOn with
  | nil => exact ⟨[], 0, rfl, by simp⟩
  | append_singleton t c ih =>
    by_cases hc : c = '\\'
    · obtain ⟨before, k, rfl, hbefore⟩ := ih
      refine ⟨before, k + 1, ?_, hbefore⟩
      rw [hc, List.append_assoc, List.replicate_succ']
    · exact ⟨t ++ [c], 0, (List.append_nil _).symm, by simpa using hc⟩

theorem append_slashes_inj (ht : t.getLast? ≠ some '\\') (ht' : t'.getLast? ≠ some '\\')
    {k k' : Nat} (h : t ++ List.replicate k '\\' = t' ++ List.replicate k' '\\') :
    t = t' ∧ k = k' := by
  induction k generalizing k' with
  | zero =>
    cases k' with
    | zero => simpa using h
    | succ k' =>
      rw [List.replicate_succ', List.replicate_zero, List.append_nil] at h
      simp [h] at ht
  | succ k ih =>
    cases k' with
    | zero =>
      rw [List.replicate_succ', List.replicate_zero, List.append_nil] at h
      simp [← h] at ht'
    | succ k' =>
      rw [List.replicate_succ', List.replicate_succ', ← List.append_assoc, ← List.append_assoc] at h
      obtain ⟨rfl, rfl⟩ := ih (List.append_cancel_right h)
      exact ⟨rfl, rfl⟩

/-- Without a backslash before them, braces stand for an argument. -/
theorem close_of_ne (ht : t.head? ≠ some '\\') : close t = [.literal t.reverse, .argument] := by
  unfold close
  split <;> simp_all

/-- A single backslash before them makes braces literal. -/
theorem close_slash (ht : t.head? ≠ some '\\') :
    close ('\\' :: t) = [.literal (t.reverse ++ braces)] := by
  unfold close
  split <;> simp_all [braces]

end Texts

namespace Spot

theorem not_infix_lead (s : Spot) : ¬ braces <:+: s.lead := by
  have hslashes : (List.replicate s.slashes '\\').head? ≠ some '\x7d' := by
    cases s.slashes <;> simp [List.replicate_succ]
  rintro ⟨u, v, huv⟩
  have hstart : braces <+: s.lead.drop u.length := by
    rw [← huv, List.append_assoc, List.drop_left]
    exact List.prefix_append braces v
  rcases Nat.lt_or_ge u.length s.before.length with hlt | hle
  · exact not_prefix_drop s.no_braces hslashes u.length hlt hstart
  · -- Among the backslashes there is no brace at all.
    rw [lead, List.drop_append, List.drop_eq_nil_of_le hle, List.nil_append] at hstart
    have hmem : '\x7b' ∈ List.replicate s.slashes '\\' :=
      List.mem_of_mem_drop (hstart.subset List.mem_cons_self)
    simp at hmem

theorem lead_injective : Function.Injective lead := by
  intro s s' h
  obtain ⟨hbefore, hslashes⟩ := append_slashes_inj s.no_slash s'.no_slash h
  exact Spot.ext hbefore hslashes

/-- Read from the pair backwards, the text before it gives the parts that the pair ends. -/
theorem close_lead (s : Spot) : close s.lead.reverse = s.parts := by
  obtain ⟨before, slashes, -, hslash⟩ := s
  have hhead : before.reverse.head? ≠ some '\\' := by rwa [List.head?_reverse]
  rw [lead, List.reverse_append, List.reverse_replicate]
  match slashes with
  | 0 => simp [parts, close_of_ne hhead]
  | 1 => simp [parts, close_slash hhead]
  | k + 2 =>
    rw [List.replicate_succ, List.replicate_succ, List.cons_append, List.cons_append, close]
    simp [parts, List.replicate_succ']

end Spot

/-! ## Every pattern is split in one way -/

theorem partsAfter_cons {c : Char} {rest : Text} (h : ¬ braces <+: c :: rest) (before : Text) :
    partsAfter before (c :: rest) = partsAfter (c :: before) rest := by
  rw [partsAfter]
  rintro more rfl rfl
  exact h (List.prefix_append braces more)

/-- Where no pair of braces starts, characters are collected. -/
theorem partsAfter_append {t rest : Text} (h : ∀ i < t.length, ¬ braces <+: (t ++ rest).drop i)
    (before : Text) : partsAfter before (t ++ rest) = partsAfter (t.reverse ++ before) rest := by
  induction t generalizing before with
  | nil => rfl
  | cons c t ih =>
    have htail : ∀ i < t.length, ¬ braces <+: (t ++ rest).drop i :=
      fun i hi => h (i + 1) (Nat.succ_lt_succ hi)
    have hhead : ¬ braces <+: c :: (t ++ rest) := h 0 (Nat.succ_pos _)
    rw [List.cons_append, partsAfter_cons hhead, ih htail, List.reverse_cons, List.append_assoc]
    rfl

theorem parts_append_braces {t : Text} (ht : ¬ braces <:+: t) (rest : Text) :
    parts (t ++ (braces ++ rest)) = close t.reverse ++ parts rest := by
  rw [parts, partsAfter_append (not_prefix_drop ht (head?_braces rest)), List.append_nil]
  rfl

theorem parts_of_no_braces {t : Text} (ht : ¬ braces <:+: t) : parts t = [.literal t] := by
  have hparts : partsAfter [] (t ++ []) = partsAfter (t.reverse ++ []) [] :=
    partsAfter_append (not_prefix_drop ht (by simp)) []
  rw [List.append_nil, List.append_nil] at hparts
  rw [parts, hparts, partsAfter, List.reverse_reverse]

namespace Split

/-- The parts of a pattern are those that its pairs end, and the text after the last one. -/
theorem parts_pattern (s : Split) :
    Message.parts s.pattern = s.spots.flatMap Spot.parts ++ [.literal s.rest] := by
  obtain ⟨spots, rest, hrest⟩ := s
  simp only [pattern]
  induction spots with
  | nil => exact parts_of_no_braces hrest
  | cons spot spots ih =>
    simp only [List.flatMap_cons, Spot.pattern, List.append_assoc] at ih ⊢
    rw [parts_append_braces spot.not_infix_lead, spot.close_lead, ih]

/-- A text with a pair of braces cannot be what follows the last one. -/
theorem ne_rest (s : Split) (spot : Spot) (after : Text) : spot.pattern ++ after ≠ s.rest := by
  intro h
  have hpair : braces <:+: spot.pattern ++ after := List.infix_append spot.lead braces after
  exact s.no_braces (h ▸ hpair)

theorem pattern_injective : Function.Injective pattern := by
  intro s s' h
  obtain ⟨spots, rest, hrest⟩ := s
  induction spots generalizing s' with
  | nil =>
    obtain ⟨spots', rest', hrest'⟩ := s'
    cases spots' with
    | nil => exact Split.ext rfl h
    | cons spot' spots' =>
      rw [pattern, pattern, List.flatMap_cons, List.append_assoc] at h
      exact absurd h.symm (ne_rest ⟨[], rest, hrest⟩ spot' _)
  | cons spot spots ih =>
    obtain ⟨spots', rest', hrest'⟩ := s'
    simp only [pattern, List.flatMap_cons, List.append_assoc] at h
    cases spots' with
    | nil => exact absurd h (ne_rest ⟨[], rest', hrest'⟩ spot _)
    | cons spot' spots' =>
      simp only [Spot.pattern, List.flatMap_cons, List.append_assoc] at h
      obtain ⟨hlead, hafter⟩ := append_braces_inj spot.not_infix_lead spot'.not_infix_lead h
      have htail : (⟨spots, rest, hrest⟩ : Split) = ⟨spots', rest', hrest'⟩ := ih hafter
      rw [Split.ext_iff] at htail
      obtain ⟨rfl, rfl⟩ := htail
      exact Split.ext (congrArg (· :: spots) (Spot.lead_injective hlead)) rfl

theorem pattern_surjective : Function.Surjective pattern := by
  intro p
  induction hlength : p.length using Nat.strongRecOn generalizing p with
  | ind n ih =>
    by_cases hbraces : braces <:+: p
    · obtain ⟨t, after, rfl, ht⟩ := exists_first_braces hbraces
      obtain ⟨before, slashes, rfl, hslash⟩ := exists_slashes t
      obtain ⟨s, rfl⟩ := ih after.length (by simp [braces, ← hlength]; omega) after rfl
      have hbefore : ¬ braces <:+: before :=
        fun hpair => ht (hpair.trans (List.infix_append [] before _))
      exact ⟨⟨⟨before, slashes, hbefore, hslash⟩ :: s.spots, s.rest, s.no_braces⟩, by
        simp [pattern, Spot.pattern, Spot.lead]⟩
    · exact ⟨⟨[], p, hbraces⟩, rfl⟩

end Split

/-! ## Escaped braces -/

/-- The pair with one more backslash before it. -/
def Spot.escaped (s : Spot) : Spot := { s with slashes := s.slashes + 1 }

/-- The pattern with one more backslash before every pair. -/
def Split.escaped (s : Split) : Split := { s with spots := s.spots.map Spot.escaped }

theorem replace_append_braces {t : Text} (ht : ¬ braces <:+: t) (new rest : Text) :
    Text.replace braces new (t ++ (braces ++ rest)) =
      t ++ (new ++ Text.replace braces new rest) := by
  have hbraces : braces ≠ [] := List.cons_ne_nil _ _
  rw [Text.replace, Text.replaceFrom_append (not_prefix_drop ht (head?_braces rest)),
    Text.replaceFrom_self hbraces]
  rfl

/-- The pattern of a message is the message with one more backslash before every pair of braces. -/
theorem patternOf_pattern (s : Split) : patternOf s.pattern = s.escaped.pattern := by
  obtain ⟨spots, rest, hrest⟩ := s
  simp only [Split.pattern, Split.escaped]
  induction spots with
  | nil => exact Text.replace_of_not_infix hrest _
  | cons spot spots ih =>
    have hspot : spot.lead ++ '\\' :: braces = spot.escaped.pattern := by
      simp [Spot.pattern, Spot.escaped, Spot.lead, List.replicate_succ']
    have htail : Text.replace braces ('\\' :: braces) (spots.flatMap Spot.pattern ++ rest) =
        (spots.map Spot.escaped).flatMap Spot.pattern ++ rest := ih
    calc patternOf (List.flatMap Spot.pattern (spot :: spots) ++ rest)
      _ = Text.replace braces ('\\' :: braces)
          (spot.lead ++ (braces ++ (spots.flatMap Spot.pattern ++ rest))) := by
        simp only [List.flatMap_cons, Spot.pattern, List.append_assoc]
        rfl
      _ = spot.lead ++ '\\' :: braces ++
          ((spots.map Spot.escaped).flatMap Spot.pattern ++ rest) := by
        rw [replace_append_braces spot.not_infix_lead, htail, List.append_assoc]
      _ = ((spot :: spots).map Spot.escaped).flatMap Spot.pattern ++ rest := by
        rw [hspot, List.map_cons, List.flatMap_cons, List.append_assoc]

end LogLine.Message
