-- SUMMARY: Markup that leaves nothing open, which is what can be evaluated apart from what follows it.
import LogLine.Proofs.Markup.Appending

/-!
# Joining markup

Templates are put together from pieces of markup, and a piece may change what the next
one means: a scope that is left open colours it, a name swallows it, and a backslash or
an at sign waits for its first character. Markup that leaves nothing of this kind behind
is complete, however malformed it is: a brace that closes nothing and a scope without a
body are done with where they stand.

Completeness is said of the text, without a reader. Complete markup is exactly the markup
after which evaluating a whole is evaluating its parts, one at the end of the other.
-/

namespace LogLine

namespace Markup

/-! ## Complete markup -/

/-- Markup that ends between characters of text, with the numbers of scopes that are open before
    and after it. -/
inductive Leads : (before : Nat) → Text → (after : Nat) → Prop where
  | nil {n : Nat} : Leads n [] n
  /-- A character that means nothing by itself. An opening brace is one of them. -/
  | literal {n k : Nat} {c : Char} {t : Text} (hslash : c ≠ '\\') (hat : c ≠ '@')
      (hbrace : c ≠ '\x7d') : Leads n t k → Leads n (c :: t) k
  | escaped {n k : Nat} {c : Char} {t : Text} : Leads n t k → Leads n ('\\' :: c :: t) k
  /-- An at sign is literal once something else than an opening brace follows. -/
  | atSign {n k : Nat} {c : Char} {t : Text} (hbrace : c ≠ '\x7b') :
      Leads n (c :: t) k → Leads n ('@' :: c :: t) k
  /-- A brace closes the innermost scope, or nothing. -/
  | close {n k : Nat} {t : Text} : Leads (n - 1) t k → Leads n ('\x7d' :: t) k
  /-- Spaces before a name are passed over. -/
  | blank {n k : Nat} {t : Text} :
      Leads n ('@' :: '\x7b' :: t) k → Leads n ('@' :: '\x7b' :: ' ' :: t) k
  | scope {n k : Nat} {name t : Text} (hname : IsName name) :
      Leads (n + 1) t k → Leads n ('@' :: '\x7b' :: name ++ ' ' :: t) k
  /-- A scope that ends before its body opens nothing. It may have no name either. -/
  | dropped {n k : Nat} {name t : Text} (hspace : ' ' ∉ name) (hbrace : '\x7d' ∉ name) :
      Leads n t k → Leads n ('@' :: '\x7b' :: name ++ '\x7d' :: t) k

/-- Markup that ends with no scope open, outside the name of a scope, and neither with a backslash
    nor with an at sign that waits for what follows. -/
def Complete (m : Text) : Prop := Leads 0 m 0

/-! ## Following a reader -/

namespace Reader

/-- A reader stands between characters of text, with a number of open scopes. -/
structure Between (n : Nat) (r : Reader) : Prop where
  mode_eq : r.mode = .text
  length_pens : r.pens.length = n

theorem between_zero_iff {r : Reader} : r.Between 0 ↔ r = {} := by
  constructor
  · intro h
    obtain ⟨mode, pens⟩ := r
    obtain ⟨rfl, hpens⟩ := h
    exact congrArg (Reader.mk .text) (List.eq_nil_of_length_eq_zero hpens)
  · rintro rfl
    exact ⟨rfl, rfl⟩

/-- What a character of text does depends on the open scopes only. -/
theorem feedText_mode (mode : Mode) (pens : List Pen) (c : Char) :
    feedText ⟨mode, pens⟩ c = feedText ⟨.text, pens⟩ c := by
  unfold feedText
  split <;> rfl

variable {resolver : Resolver}

/-- A literal at sign leaves the reader where it was. -/
theorem feedAll_at_sign {c : Char} (hbrace : c ≠ '\x7b') (pens : List Pen) (t : Text) :
    (feedAll resolver ⟨.text, pens⟩ ('@' :: c :: t)).1 =
      (feedAll resolver ⟨.text, pens⟩ (c :: t)).1 := by
  have hstep : (feed resolver ⟨.afterAt, pens⟩ c).1 = (feed resolver ⟨.text, pens⟩ c).1 := by
    simp only [feed, if_neg hbrace, feedText_mode .afterAt]
  rw [feedAll_cons, feedAll_cons, feedAll_cons, ← hstep]
  rfl

/-- A name that a brace ends leaves the reader where it was. -/
theorem feedAll_dropped {name : Text} (hspace : ' ' ∉ name) (hbrace : '\x7d' ∉ name)
    (pens : List Pen) :
    feedAll resolver ⟨.text, pens⟩ ('@' :: '\x7b' :: name ++ ['\x7d']) = (⟨.text, pens⟩, []) := by
  simp only [List.cons_append, feedAll_cons, feed, feedText, if_true, feedAll_append,
    feedAll_name hspace hbrace, List.append_nil, feedName, feedAll_nil]

end Reader

variable {resolver : Resolver}

/-- A reader goes where the text leads. -/
theorem Leads.feedAll {n k : Nat} {m : Text} (h : Leads n m k) {pens : List Pen}
    (hpens : pens.length = n) : (Reader.feedAll resolver ⟨.text, pens⟩ m).1.Between k := by
  induction h generalizing pens with
  | nil => exact ⟨rfl, hpens⟩
  | @literal _ _ c t hslash hat hbrace _ ih =>
    have hstep : (Reader.feed resolver ⟨.text, pens⟩ c).1 = ⟨.text, pens⟩ :=
      congrArg Prod.fst (Reader.feedText_of_ne hslash hat hbrace ⟨.text, pens⟩)
    rw [Reader.feedAll_cons, hstep]
    exact ih hpens
  | escaped _ ih => exact ih hpens
  | atSign hbrace _ ih =>
    rw [Reader.feedAll_at_sign hbrace]
    exact ih hpens
  | close _ ih => exact ih (by rw [List.length_tail, hpens])
  | blank _ ih => exact ih hpens
  | scope hname _ ih =>
    rw [List.append_cons, Reader.feedAll_append, Reader.feedAll_open rfl hname]
    exact ih (congrArg (· + 1) hpens)
  | dropped hspace hbrace _ ih =>
    rw [List.append_cons, Reader.feedAll_append, Reader.feedAll_dropped hspace hbrace]
    exact ih hpens

/-- What a reader has taken of a piece of markup that is not over. Spaces before a name are
    forgotten. -/
def Mode.pending : Mode → Text
  | .text => []
  | .escape => ['\\']
  | .afterAt => ['@']
  | .name read => '@' :: '\x7b' :: read.reverse

theorem leads_of_feedText {pens : List Pen} {c : Char} {t : Text} {k : Nat}
    (h : Leads (Reader.feedText ⟨.text, pens⟩ c).1.pens.length
      ((Reader.feedText ⟨.text, pens⟩ c).1.mode.pending ++ t) k) :
    Leads pens.length (c :: t) k := by
  unfold Reader.feedText at h
  split at h
  · exact h
  · exact h
  · rw [List.length_tail] at h
    exact .close h
  · next hslash hat hbrace => exact .literal hslash hat hbrace h

theorem leads_of_feedName {pens : List Pen} {read : Text} {c : Char} {t : Text} {k : Nat}
    (hspace : ' ' ∉ read) (hbrace : '\x7d' ∉ read)
    (h : Leads (Reader.feedName resolver ⟨.name read, pens⟩ read c).pens.length
      ((Reader.feedName resolver ⟨.name read, pens⟩ read c).mode.pending ++ t) k) :
    Leads pens.length ('@' :: '\x7b' :: read.reverse ++ c :: t) k := by
  rw [← List.mem_reverse] at hspace hbrace
  unfold Reader.feedName at h
  split at h
  · exact .blank h
  · next hne =>
    have hname : IsName read.reverse := ⟨List.reverse_ne_nil_iff.mpr hne, hspace, hbrace⟩
    exact .scope hname h
  · exact .dropped hspace hbrace h
  · simpa [Mode.pending] using h

/-- One step back: if the text leads on from where a character takes the reader, it leads there
    together with the character. -/
theorem Reader.Keeps.leads_of_feed {pen : Pen → Prop} {r : Reader} {c : Char}
    (hr : r.Keeps (fun read => ' ' ∉ read ∧ '\x7d' ∉ read) pen) {t : Text} {k : Nat}
    (h : Leads (r.feed resolver c).1.pens.length ((r.feed resolver c).1.mode.pending ++ t) k) :
    Leads r.pens.length (r.mode.pending ++ c :: t) k := by
  obtain ⟨mode, pens⟩ := r
  cases mode with
  | text => exact leads_of_feedText h
  | escape => exact .escaped h
  | afterAt =>
    simp only [Reader.feed] at h
    split at h
    · next hbrace => exact hbrace ▸ h
    · next hbrace =>
      rw [Reader.feedText_mode] at h
      exact .atSign hbrace (leads_of_feedText h)
  | name read =>
    obtain ⟨hspace, hbrace⟩ := hr.name read rfl
    exact leads_of_feedName hspace hbrace h

/-- The text leads where a reader goes. -/
theorem Reader.Between.leads {r : Reader} {m : Text} {k : Nat}
    (h : (Reader.feedAll resolver r m).1.Between k)
    (hr : r.Keeps (fun read => ' ' ∉ read ∧ '\x7d' ∉ read) (Pen.Valid resolver)) :
    Leads r.pens.length (r.mode.pending ++ m) k := by
  induction m generalizing r with
  | nil =>
    obtain ⟨hmode, hpens⟩ := h
    rw [Reader.feedAll_nil] at hmode hpens
    rw [hmode, hpens]
    exact .nil
  | cons c m ih => exact hr.leads_of_feed (ih h ((kept_valid resolver).feed hr trivial).1)

/-- Markup is complete exactly if a new reader is as new after it, whatever the resolver is. -/
theorem complete_iff (resolver : Resolver) (m : Text) :
    Complete m ↔ (Reader.feedAll resolver {} m).1 = {} := by
  rw [← Reader.between_zero_iff]
  constructor
  · intro h
    exact h.feedAll rfl
  · intro h
    exact h.leads (r := {}) ⟨List.forall_mem_nil _, nofun⟩

instance : DecidablePred Complete := fun m => decidable_of_iff _ (complete_iff .none m).symm

example : ¬ Complete "@\x7bu a".toList ∧ ¬ Complete "a@\x7bu".toList ∧ ¬ Complete "a\\".toList ∧
    ¬ Complete "a@".toList := by decide

/-! ## What is left open shows -/

namespace Reader

theorem pens_feedText (r : Reader) (c : Char) :
    (r.feedText c).1.pens = r.pens ∨ (r.feedText c).1.pens = r.pens.tail := by
  unfold feedText
  split
  · exact .inl rfl
  · exact .inl rfl
  · exact .inr rfl
  · exact .inl rfl

/-- A step keeps the open scopes, closes the innermost one or opens one that has a name. -/
theorem pens_feed (r : Reader) (resolver : Resolver) (c : Char) :
    (r.feed resolver c).1.pens = r.pens ∨ (r.feed resolver c).1.pens = r.pens.tail ∨
      ∃ name, name ≠ [] ∧ (r.feed resolver c).1.pens = r.pen.inside resolver name :: r.pens := by
  unfold feed
  split
  · exact (r.pens_feedText c).imp_right .inl
  · exact .inl rfl
  · split
    · exact .inl rfl
    · exact (r.pens_feedText c).imp_right .inl
  · unfold feedName
    split
    · exact .inl rfl
    · next hne => exact .inr (.inr ⟨_, List.reverse_ne_nil_iff.mpr hne, rfl⟩)
    · exact .inl rfl
    · exact .inl rfl

/-- Every open scope has a spec, so what it shows differs from the text outside. -/
theorem spec_ne_nil_of_mem_pens {r : Reader} (hr : ∀ p ∈ r.pens, p.spec ≠ []) (m : Text) :
    ∀ p ∈ (feedAll resolver r m).1.pens, p.spec ≠ [] := by
  induction m generalizing r with
  | nil => exact hr
  | cons c m ih =>
    have hstep : ∀ p ∈ (r.feed resolver c).1.pens, p.spec ≠ [] := by
      rcases r.pens_feed resolver c with h | h | ⟨name, hname, h⟩ <;> rw [h]
      · exact hr
      · exact fun p hp => hr p (List.mem_of_mem_tail hp)
      · exact List.forall_mem_cons.mpr ⟨Pen.spec_inside_ne_nil hname resolver r.pen, hr⟩
    exact ih hstep

/-- Only a new reader shows whatever follows as if it stood alone. A letter tells of an open scope,
    a name and a backslash; an opening brace tells of an at sign. -/
theorem eq_new_of_glyphsFrom {r : Reader} (hr : ∀ p ∈ r.pens, p.spec ≠ [])
    (h : ∀ n, r.glyphsFrom resolver n = r.finish ++ glyphs resolver n) : r = {} := by
  have hletter := h ['x']
  obtain ⟨mode, pens⟩ := r
  cases mode with
  | text =>
    cases pens with
    | nil => rfl
    | cons p pens =>
      have hpen : p = .default := by
        simpa [glyphsFrom, feedAll, feed, feedText, finish, glyphs, glyph, pen] using hletter
      exact absurd (congrArg Pen.spec hpen) (hr p List.mem_cons_self)
  | escape => cases congrArg List.length hletter
  | afterAt => cases congrArg List.length (h ['\x7b'])
  | name read =>
    simp [glyphsFrom, feedAll, feed, feedText, feedName_of_ne, finish, glyphs] at hletter

end Reader

/-! ## Joining -/

/-- After complete markup, and after no other, whatever follows shows what it shows alone. -/
theorem complete_iff_glyphs_append (resolver : Resolver) (m : Text) :
    Complete m ↔ ∀ n, glyphs resolver (m ++ n) = glyphs resolver m ++ glyphs resolver n := by
  have hjoined (n : Text) : glyphs resolver (m ++ n) =
      (Reader.feedAll resolver {} m).2 ++
        (Reader.feedAll resolver {} m).1.glyphsFrom resolver n :=
    Reader.glyphsFrom_append {} m n
  have hparts (n : Text) : glyphs resolver m ++ glyphs resolver n =
      (Reader.feedAll resolver {} m).2 ++
        ((Reader.feedAll resolver {} m).1.finish ++ glyphs resolver n) :=
    List.append_assoc _ _ _
  simp only [complete_iff resolver, hjoined, hparts, List.append_cancel_left_eq]
  constructor
  · intro h n
    rw [h]
    rfl
  · exact Reader.eq_new_of_glyphsFrom (Reader.spec_ne_nil_of_mem_pens (List.forall_mem_nil _) m)

end Markup

namespace Expression

variable (e : Expression)

/-- Evaluations without a limit are compared by what they show. -/
theorem evaluate_eq_append_iff (l m n : Text) :
    e.unlimited.evaluate l = e.unlimited.evaluate m ++ e.unlimited.evaluate n ↔
      Markup.glyphs e.resolver l = Markup.glyphs e.resolver m ++ Markup.glyphs e.resolver n := by
  constructor
  · intro h
    have hstyled (m : Text) := e.unlimited.styledBy_evaluate m
    have hglyphs := congrArg StyledText.glyphs h
    rw [(hstyled m).glyphs_append (hstyled n)] at hglyphs
    simpa only [glyphs_evaluate, shown_unlimited] using hglyphs
  · intro h
    simp only [evaluate_eq, shown_unlimited, h, StyledText.ofGlyphs_append]

/-- After complete markup, and after no other, whatever follows can be evaluated apart: the whole
    is what the evaluation of the rest makes of the text of the first part, and it is the two texts
    one after the other. -/
theorem evaluate_append_iff (m : Text) :
    Markup.Complete m ↔ ∀ n,
      e.unlimited.evaluate (m ++ n) = e.unlimited.evaluateInto (e.unlimited.evaluate m) n ∧
      e.unlimited.evaluate (m ++ n) = e.unlimited.evaluate m ++ e.unlimited.evaluate n := by
  rw [Markup.complete_iff_glyphs_append e.resolver]
  refine forall_congr' fun n => ?_
  rw [evaluateInto_eq_append, and_self, evaluate_eq_append_iff]

/-- Stray braces, scopes without a body and an escaped at sign before a brace are no obstacle. -/
theorem evaluate_append_strays :
    let m := "\x7da@\x7b\x7d@\x7b u\x7d@\x7bv b\x7d\x7d\\@".toList
    let n := "\x7bc\x7d@\x7bw d".toList
    Markup.Complete m ∧
      ({} : Expression).evaluate (m ++ n) =
        ({} : Expression).evaluate m ++ ({} : Expression).evaluate n ∧
      (({} : Expression).evaluate (m ++ n)).runs.map (fun r => (r.text, r.spec)) =
        [(['a'], []), (['b'], ['v']), ("@\x7bc".toList, []), (['d'], ['w'])] := by
  intro m n
  have hm : Markup.Complete m := by decide
  exact ⟨hm, ((evaluate_append_iff {} m).mp hm n).2, by decide +kernel⟩

end Expression

end LogLine
