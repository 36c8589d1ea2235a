-- SUMMARY: A name in a spec stands for the spec registered under it, eight levels deep.
import LogLine.Proofs.Style.Cascade
import Mathlib.Data.List.TakeWhile
import Mathlib.Logic.Function.Iterate

/-!
# Inlined names

A spec can be read without a style sheet once its names are replaced by the
specs registered under them, and then the names in these. Every level that names
may be followed is a round of replacing in the text of the spec. The order of
the items does not change, so each round takes one level away and keeps the
style. Names that are left when no level remains mean nothing.
-/

namespace LogLine

namespace Text

/-! ## Blanks at the ends -/

theorem trim_append_of_blank {lead : Text} (h : ∀ c ∈ lead, isBlank c = true) (t : Text) :
    trim (lead ++ t) = trim t := by
  rw [trim, trimLeft, List.dropWhile_append_of_pos h]
  rfl

theorem trimRight_append_of_blank {trail : Text} (h : ∀ c ∈ trail, isBlank c = true) (t : Text) :
    trimRight (t ++ trail) = trimRight t := by
  have hreverse : ∀ c ∈ trail.reverse, isBlank c = true :=
    fun c hc => h c (List.mem_reverse.mp hc)
  rw [trimRight, List.reverse_append, List.dropWhile_append_of_pos hreverse]
  rfl

theorem trim_append_blank {trail : Text} (h : ∀ c ∈ trail, isBlank c = true) (t : Text) :
    trim (t ++ trail) = trim t := by
  rw [trim, trim, trimLeft, List.dropWhile_append]
  split
  · next hempty =>
    have hleft : trimLeft t = [] := List.isEmpty_iff.mp hempty
    have htrail : trail.dropWhile isBlank = [] := List.dropWhile_eq_nil_iff.mpr h
    rw [htrail, hleft]
  · exact trimRight_append_of_blank h (trimLeft t)

/-- What follows a lead is what has to be put after it. -/
theorem after?_eq_some_iff {lead t rest : Text} : after? lead t = some rest ↔ t = lead ++ rest := by
  induction lead generalizing t with
  | nil => simp [after?]
  | cons l lead ih =>
    cases t with
    | nil => simp [after?]
    | cons c t =>
      rw [after?]
      split
      · next h => simp [ih, h]
      · next h => simp [Ne.symm h]

theorem after?_eq_none_iff {lead t : Text} : after? lead t = none ↔ ¬ lead <+: t := by
  rw [← Option.not_isSome_iff_eq_none, Option.isSome_iff_exists, not_iff_not]
  exact exists_congr fun rest => after?_eq_some_iff.trans eq_comm

end Text

namespace StyleItem

/-! ## Items as texts -/

/-- The items of a spec as they are written. -/
def texts (spec : Text) : List Text := ((Text.split ',' spec).map Text.trim).filter (· ≠ [])

theorem ofSpec_eq_map (spec : Text) : ofSpec spec = (texts spec).map ofText := rfl

theorem mem_texts {item spec : Text} :
    item ∈ texts spec ↔ item ≠ [] ∧ ∃ part ∈ Text.split ',' spec, Text.trim part = item := by
  simp [texts, and_comm]

theorem texts_append_cons (a b : Text) : texts (a ++ ',' :: b) = texts a ++ texts b := by
  simp [texts, Text.split_append_cons]

/-- A part of a spec has at most one item. -/
theorem texts_of_not_mem {part : Text} (h : ',' ∉ part) :
    texts part = if Text.trim part = [] then [] else [Text.trim part] := by
  rw [texts, Text.split_of_not_mem h]
  by_cases hitem : Text.trim part = [] <;> simp [hitem]

theorem texts_join (parts : List Text) :
    texts (Text.join [','] parts) = parts.flatMap texts := by
  induction parts with
  | nil => rfl
  | cons part parts ih =>
    cases parts with
    | nil => rw [Text.join_singleton, List.flatMap_singleton]
    | cons next parts => rw [Text.join_cons_cons, texts_append_cons, ih, ← List.flatMap_cons]

theorem not_mem_of_blank {t : Text} (h : ∀ c ∈ t, Text.isBlank c = true) : ',' ∉ t :=
  fun hc => absurd (h ',' hc) (by decide)

theorem texts_append_of_blank {lead : Text} (h : ∀ c ∈ lead, Text.isBlank c = true) (t : Text) :
    texts (lead ++ t) = texts t := by
  by_cases hmem : ',' ∈ t
  · obtain ⟨a, b, rfl, ha⟩ := List.eq_append_cons_of_mem hmem
    have hlead : ',' ∉ lead ++ a := by simp [not_mem_of_blank h, ha]
    rw [← List.append_assoc, texts_append_cons, texts_append_cons, texts_of_not_mem hlead,
      texts_of_not_mem ha, Text.trim_append_of_blank h]
  · have hlead : ',' ∉ lead ++ t := by simp [not_mem_of_blank h, hmem]
    rw [texts_of_not_mem hlead, texts_of_not_mem hmem, Text.trim_append_of_blank h]

theorem texts_append_blank {trail : Text} (h : ∀ c ∈ trail, Text.isBlank c = true) (t : Text) :
    texts (t ++ trail) = texts t := by
  induction ht : t.length using Nat.strong_induction_on generalizing t with
  | _ n ih =>
    by_cases hmem : ',' ∈ t
    · obtain ⟨a, b, rfl, -⟩ := List.eq_append_cons_of_mem hmem
      have hshorter : b.length < n := by simp at ht; omega
      rw [List.append_assoc, List.cons_append, texts_append_cons, texts_append_cons,
        ih b.length hshorter b rfl]
    · have htrail : ',' ∉ t ++ trail := by simp [not_mem_of_blank h, hmem]
      rw [texts_of_not_mem htrail, texts_of_not_mem hmem, Text.trim_append_blank h]

/-! ## References -/

/-- The words that mean something by themselves, in lower case: the attributes and the resets. -/
def keywords : List Text :=
  ["bold", "faint", "dim", "italic", "underline", "blink", "inverse", "reverse", "conceal",
    "hidden", "crossed-out", "strikethrough", "default", "none"].map String.toList

/-- The name that an item refers to: the item without one leading dot, unless it is a colour item
    or a keyword in any case. -/
def reference? (item : Text) : Option Text :=
  if item = [] ∨ "fg:".toList <+: item ∨ "bg:".toList <+: item ∨
      keywords.contains (Text.lower item) then
    none
  else some (Text.afterOrAll ['.'] item)

theorem reference?_of_keyword {item : Text} (h : Text.lower item ∈ keywords) :
    reference? item = none :=
  if_pos (.inr (.inr (.inr (List.contains_iff_mem.mpr h))))

theorem reference?_of_name {item : Text} (h : item ≠ []) (hforeground : ¬ "fg:".toList <+: item)
    (hbackground : ¬ "bg:".toList <+: item) (hword : Text.lower item ∉ keywords) :
    reference? item = some (Text.afterOrAll ['.'] item) := by
  refine if_neg ?_
  rintro (hnil | hcolor | hcolor | hcontains)
  · exact h hnil
  · exact hforeground hcolor
  · exact hbackground hcolor
  · exact hword (List.contains_iff_mem.mp hcontains)

theorem not_mem_keywords_iff (word : Text) :
    word ∉ keywords ↔
      Attribute.ofKeyword? word = none ∧ ¬ (word = "default".toList ∨ word = "none".toList) := by
  have hite (c : Prop) [Decidable c] (what : Attribute) (rest : Option Attribute) :
      (if c then some what else rest) = none ↔ ¬ c ∧ rest = none := by
    split <;> simp [*]
  simp only [Attribute.ofKeyword?, hite, keywords, List.map_cons, List.map_nil, List.mem_cons,
    not_or, List.not_mem_nil, not_false_iff, and_true, and_assoc]

theorem name?_of_foreground {item : Text} (h : "fg:".toList <+: item) :
    (ofText item).name? = none := by
  obtain ⟨color, rfl⟩ := h
  rfl

theorem name?_of_background {item : Text} (h : "bg:".toList <+: item) :
    (ofText item).name? = none := by
  obtain ⟨color, rfl⟩ := h
  rfl

/-- What is not a colour item is a keyword or a name. -/
theorem ofText_of_not_color {item : Text} (hforeground : ¬ "fg:".toList <+: item)
    (hbackground : ¬ "bg:".toList <+: item) :
    ofText item =
      (Attribute.ofKeyword? (Text.lower item)).elim
        (if Text.lower item = "default".toList ∨ Text.lower item = "none".toList then .reset
          else .named (Text.afterOrAll ['.'] item)) .add := by
  rw [← Text.after?_eq_none_iff] at hforeground hbackground
  simp only [ofText, hforeground, hbackground]
  cases Attribute.ofKeyword? (Text.lower item) <;> rfl

/-- An item stands for a name exactly if it refers to it. -/
theorem name?_ofText {item : Text} (h : item ≠ []) : (ofText item).name? = reference? item := by
  by_cases hforeground : "fg:".toList <+: item
  · rw [reference?, if_pos (.inr (.inl hforeground)), name?_of_foreground hforeground]
  by_cases hbackground : "bg:".toList <+: item
  · rw [reference?, if_pos (.inr (.inr (.inl hbackground))), name?_of_background hbackground]
  rw [ofText_of_not_color hforeground hbackground]
  by_cases hword : Text.lower item ∈ keywords
  · rw [reference?_of_keyword hword]
    cases hkeyword : Attribute.ofKeyword? (Text.lower item) with
    | some what => rfl
    | none =>
      have hreset : Text.lower item = "default".toList ∨ Text.lower item = "none".toList :=
        Decidable.byContradiction fun hreset =>
          (not_mem_keywords_iff (Text.lower item)).mpr ⟨hkeyword, hreset⟩ hword
      rw [Option.elim_none, if_pos hreset]
      rfl
  · obtain ⟨hkeyword, hreset⟩ := (not_mem_keywords_iff (Text.lower item)).mp hword
    rw [reference?_of_name h hforeground hbackground hword, hkeyword, Option.elim_none,
      if_neg hreset]
    rfl

end StyleItem

namespace StyleSheet

open StyleItem (texts reference?)

variable (sheet : StyleSheet)

/-! ## Rounds of inlining -/

/-- The spec registered for an item that refers to a name. -/
def body? (item : Text) : Option Text := (reference? item).bind sheet.find?

/-- A part of a spec with the registered spec in the place of its item, if the item refers to
    one. The blanks around it stay. -/
def inlinePart (part : Text) : Text :=
  match sheet.body? (Text.trim part) with
  | some body =>
    part.takeWhile Text.isBlank ++ body ++ (part.reverse.takeWhile Text.isBlank).reverse
  | none => part

/-- A spec with every reference replaced by the spec registered for it, once. -/
def inline (spec : Text) : Text := Text.join [','] ((Text.split ',' spec).map sheet.inlinePart)

/-- A spec without its references. -/
def withoutReferences (spec : Text) : Text :=
  Text.join [','] ((Text.split ',' spec).filter fun part =>
    (sheet.body? (Text.trim part)).isNone)

/-- Nothing in the spec refers to a registered style. -/
def Inlined (spec : Text) : Prop := ∀ item ∈ texts spec, sheet.body? item = none

/-- References nest at most so deep in a spec. -/
def NestsWithin : (depth : Nat) → (spec : Text) → Prop
  | 0, spec => sheet.Inlined spec
  | depth + 1, spec => ∀ item ∈ texts spec, ∀ body ∈ sheet.body? item, NestsWithin depth body

instance decidableInlined (spec : Text) : Decidable (sheet.Inlined spec) :=
  inferInstanceAs (Decidable (∀ item ∈ texts spec, sheet.body? item = none))

instance decidableNestsWithin : (depth : Nat) → (spec : Text) →
    Decidable (sheet.NestsWithin depth spec)
  | 0, spec => sheet.decidableInlined spec
  | depth + 1, spec =>
    have := decidableNestsWithin depth
    inferInstanceAs
      (Decidable (∀ item ∈ texts spec, ∀ body ∈ sheet.body? item, sheet.NestsWithin depth body))

variable {sheet}

theorem ne_nil_of_body? {item body : Text} (h : sheet.body? item = some body) : item ≠ [] := by
  rintro rfl
  cases h

theorem inlinePart_of_none {part : Text} (h : sheet.body? (Text.trim part) = none) :
    sheet.inlinePart part = part := by
  rw [inlinePart, h]

/-- The items of a part with a spec inlined are the items of this spec. -/
theorem texts_inlinePart {part body : Text} (h : sheet.body? (Text.trim part) = some body) :
    texts (sheet.inlinePart part) = texts body := by
  have hlead : ∀ c ∈ part.takeWhile Text.isBlank, Text.isBlank c = true :=
    fun _ hc => List.mem_takeWhile_imp hc
  have htrail : ∀ c ∈ (part.reverse.takeWhile Text.isBlank).reverse, Text.isBlank c = true :=
    fun _ hc => List.mem_takeWhile_imp (List.mem_reverse.mp hc)
  rw [inlinePart, h]
  simp only
  rw [StyleItem.texts_append_blank htrail, StyleItem.texts_append_of_blank hlead]

/-! ## Applying inlined specs -/

theorem apply_eq_foldl_texts (sheet : StyleSheet) (depth : Nat) (spec : Text) (s : Style) :
    sheet.apply depth spec s =
      (texts spec).foldl
        (fun s item => (StyleItem.ofText item).applyWith (sheet.applyName depth) s) s := by
  rw [apply_eq_foldl, StyleItem.ofSpec_eq_map, List.foldl_map]

theorem apply_congr_texts {spec spec' : Text} (h : texts spec = texts spec') (depth : Nat)
    (s : Style) : sheet.apply depth spec s = sheet.apply depth spec' s := by
  rw [apply_eq_foldl_texts, apply_eq_foldl_texts, h]

/-- An item that refers to nothing means the same on every level and in every style sheet. -/
theorem applyWith_of_body?_eq_none {item : Text} (hitem : item ≠ [])
    (h : sheet.body? item = none) (depth : Nat) (s : Style) :
    (StyleItem.ofText item).applyWith (sheet.applyName depth) s =
      (StyleItem.ofText item).applyWith (fun _ s => s) s := by
  have hname := StyleItem.name?_ofText hitem
  cases hmeans : StyleItem.ofText item with
  | named name =>
    have hreference : reference? item = some name := by rw [← hname, hmeans]; rfl
    have hfind : sheet.find? name = none := by
      rw [body?, hreference] at h
      exact h
    cases depth with
    | zero => rfl
    | succ depth => simp only [StyleItem.applyWith, applyName, hfind, Option.elim_none]
  | _ => rfl

/-- An item that refers to a spec is the name of this spec. -/
theorem exists_named_of_body? {item body : Text} (h : sheet.body? item = some body) :
    ∃ name, StyleItem.ofText item = .named name ∧ sheet.find? name = some body := by
  obtain ⟨name, hreference, hfind⟩ := Option.bind_eq_some_iff.mp h
  have hname := StyleItem.name?_ofText (ne_nil_of_body? h)
  rw [hreference] at hname
  refine ⟨name, ?_, hfind⟩
  cases hmeans : StyleItem.ofText item <;> rw [hmeans] at hname <;> cases hname
  rfl

/-- Where nothing refers to a style, names may be followed or not. -/
theorem Inlined.apply_eq {spec : Text} (h : sheet.Inlined spec) (depth : Nat) (s : Style) :
    sheet.apply depth spec s = sheet.apply 0 spec s := by
  rw [apply_eq_foldl_texts, apply_eq_foldl_texts]
  refine List.foldl_ext _ _ s fun s item hitem => ?_
  have hne : item ≠ [] := (StyleItem.mem_texts.mp hitem).1
  rw [applyWith_of_body?_eq_none hne (h item hitem), applyWith_of_body?_eq_none hne (h item hitem)]

/-- A part that refers to a spec does what the name of this spec does. -/
theorem apply_reference {part body : Text} (hpart : ',' ∉ part)
    (h : sheet.body? (Text.trim part) = some body) (depth : Nat) (s : Style) :
    ∃ name, sheet.find? name = some body ∧
      sheet.apply depth part s = sheet.applyName depth name s := by
  obtain ⟨name, hmeans, hfind⟩ := exists_named_of_body? h
  refine ⟨name, hfind, ?_⟩
  rw [apply_eq_foldl_texts, StyleItem.texts_of_not_mem hpart, if_neg (ne_nil_of_body? h),
    List.foldl_cons, List.foldl_nil, hmeans]
  rfl

theorem mem_texts_part {item part : Text} (hpart : ',' ∉ part) (h : item ∈ texts part) :
    item = Text.trim part := by
  rw [StyleItem.texts_of_not_mem hpart] at h
  split at h
  · cases h
  · exact List.mem_singleton.mp h

theorem apply_inlinePart {part : Text} (hpart : ',' ∉ part) (depth : Nat) (s : Style) :
    sheet.apply (depth + 1) part s = sheet.apply depth (sheet.inlinePart part) s := by
  cases hbody : sheet.body? (Text.trim part) with
  | none =>
    have hinlined : sheet.Inlined part :=
      fun item hitem => (mem_texts_part hpart hitem).symm ▸ hbody
    rw [inlinePart_of_none hbody, hinlined.apply_eq (depth + 1), hinlined.apply_eq depth]
  | some body =>
    obtain ⟨name, hfind, happly⟩ := apply_reference hpart hbody (depth + 1) s
    rw [apply_congr_texts (texts_inlinePart hbody), happly, applyName, hfind, Option.elim_some]

/-- A round of inlining takes the place of a level of names. -/
theorem apply_succ (sheet : StyleSheet) (depth : Nat) (spec : Text) (s : Style) :
    sheet.apply (depth + 1) spec s = sheet.apply depth (sheet.inline spec) s := by
  conv_lhs => rw [← Text.join_split ',' spec]
  rw [inline, apply_join, apply_join, List.foldl_map]
  exact List.foldl_ext _ _ s fun s part hpart =>
    apply_inlinePart (Text.not_mem_of_mem_split hpart) depth s

theorem apply_eq_apply_iterate (sheet : StyleSheet) (depth : Nat) (spec : Text) (s : Style) :
    sheet.apply depth spec s = sheet.apply 0 (sheet.inline^[depth] spec) s := by
  induction depth generalizing spec with
  | zero => rfl
  | succ depth ih => rw [apply_succ, ih, Function.iterate_succ_apply]

/-- Without styles, no item refers to one. -/
theorem inlined_empty (spec : Text) : ({} : StyleSheet).Inlined spec :=
  fun item _ => Option.bind_fun_none (reference? item)

/-- Where names may not be followed, the styles do not matter. -/
theorem apply_zero (sheet : StyleSheet) (depth : Nat) (spec : Text) (s : Style) :
    sheet.apply 0 spec s = ({} : StyleSheet).apply depth spec s :=
  ((inlined_empty spec).apply_eq depth s).symm

/-! ## What is left -/

theorem apply_withoutReferences (sheet : StyleSheet) (depth : Nat) (spec : Text) (s : Style) :
    ({} : StyleSheet).apply depth (sheet.withoutReferences spec) s =
      ({} : StyleSheet).apply depth spec s := by
  conv_rhs => rw [← Text.join_split ',' spec]
  rw [withoutReferences, apply_join, apply_join, List.foldl_filter]
  refine List.foldl_ext _ _ s fun s part hpart => ?_
  split
  · rfl
  · next hbody =>
    obtain ⟨body, hbody⟩ := Option.ne_none_iff_exists'.mp (mt Option.isNone_iff_eq_none.mpr hbody)
    obtain ⟨name, -, happly⟩ := apply_reference (Text.not_mem_of_mem_split hpart) hbody 0 s
    rw [← apply_zero sheet, happly]
    rfl

theorem Inlined.inline_eq {spec : Text} (h : sheet.Inlined spec) : sheet.inline spec = spec := by
  have hparts : ∀ part ∈ Text.split ',' spec, sheet.inlinePart part = part := by
    intro part hpart
    refine inlinePart_of_none (Option.eq_none_iff_forall_ne_some.mpr fun body hbody => ?_)
    have hnone := h _ (StyleItem.mem_texts.mpr ⟨ne_nil_of_body? hbody, part, hpart, rfl⟩)
    rw [hnone] at hbody
    cases hbody
  rw [inline, List.map_congr_left hparts, List.map_id', Text.join_split]

/-- A round keeps the items that refer to nothing, and brings in those of the specs that the others
    refer to. -/
theorem mem_texts_inline {item spec : Text} (h : item ∈ texts (sheet.inline spec)) :
    sheet.body? item = none ∨
      ∃ reference ∈ texts spec, ∃ body ∈ sheet.body? reference, item ∈ texts body := by
  rw [inline, StyleItem.texts_join, List.flatMap_map, List.mem_flatMap] at h
  obtain ⟨part, hpart, hitem⟩ := h
  cases hbody : sheet.body? (Text.trim part) with
  | none =>
    rw [inlinePart_of_none hbody] at hitem
    exact .inl (mem_texts_part (Text.not_mem_of_mem_split hpart) hitem ▸ hbody)
  | some body =>
    rw [texts_inlinePart hbody] at hitem
    have hreference : Text.trim part ∈ texts spec :=
      StyleItem.mem_texts.mpr ⟨ne_nil_of_body? hbody, part, hpart, rfl⟩
    exact .inr ⟨Text.trim part, hreference, body, hbody, hitem⟩

theorem NestsWithin.inline {depth : Nat} {spec : Text} (h : sheet.NestsWithin (depth + 1) spec) :
    sheet.NestsWithin depth (sheet.inline spec) := by
  cases depth with
  | zero =>
    intro item hitem
    rcases mem_texts_inline hitem with hnone | ⟨reference, hreference, body, hbody, hitem⟩
    · exact hnone
    · exact h reference hreference body hbody item hitem
  | succ depth =>
    intro item hitem next hnext
    rcases mem_texts_inline hitem with hnone | ⟨reference, hreference, body, hbody, hitem⟩
    · rw [hnone] at hnext
      cases hnext
    · exact h reference hreference body hbody item hitem next hnext

theorem NestsWithin.inlined {depth : Nat} {spec : Text} (h : sheet.NestsWithin depth spec) :
    sheet.Inlined (sheet.inline^[depth] spec) := by
  induction depth generalizing spec with
  | zero => exact h
  | succ depth ih =>
    rw [Function.iterate_succ_apply]
    exact ih h.inline

/-- A spec resolves to what its text resolves to without any styles after eight rounds of inlining,
    and the references that are left then have no effect. If references nest at most eight deep,
    none is left, and further rounds change nothing. -/
theorem resolve_eq_inlined (sheet : StyleSheet) (spec : Text) :
    sheet.resolve spec = ({} : StyleSheet).resolve (sheet.inline^[8] spec) ∧
      sheet.resolve spec =
        ({} : StyleSheet).resolve (sheet.withoutReferences (sheet.inline^[8] spec)) ∧
      (sheet.NestsWithin 8 spec → sheet.Inlined (sheet.inline^[8] spec) ∧
        ∀ n, sheet.inline^[n] (sheet.inline^[8] spec) = sheet.inline^[8] spec) := by
  have hresolve : sheet.resolve spec = ({} : StyleSheet).resolve (sheet.inline^[8] spec) := by
    rw [resolve, maxDepth, apply_eq_apply_iterate, apply_zero]
    rfl
  refine ⟨hresolve, hresolve.trans ?_, fun h => ⟨h.inlined, ?_⟩⟩
  · exact (sheet.apply_withoutReferences maxDepth _ .default).symm
  · exact Function.iterate_fixed h.inlined.inline_eq

/-- Names that nest eight deep, and one more. -/
theorem resolve_eq_inlined_eight :
    let sheet := StyleSheet.ofList
      [(['a'], ['b']), (['b'], ['c']), (['c'], ['d']), (['d'], ['e']), (['e'], ['f']),
        (['f'], ['g']), (['g'], ['h']), (['h'], "Bold".toList), (['z'], ['a'])]
    (sheet.NestsWithin 8 " .a ,DIM".toList ∧
      sheet.inline^[8] " .a ,DIM".toList = " Bold ,DIM".toList ∧
      sheet.Inlined (sheet.inline^[8] " .a ,DIM".toList)) ∧
    (¬ sheet.NestsWithin 8 "z,fg:red".toList ∧
      sheet.resolve "z,fg:red".toList = ({} : StyleSheet).resolve "h,fg:red".toList ∧
      sheet.resolve "z,fg:red".toList = ({} : StyleSheet).resolve "fg:red".toList) := by
  refine ⟨⟨by decide +kernel, by decide +kernel,
    ((resolve_eq_inlined _ _).2.2 (by decide +kernel)).1⟩, by decide +kernel, ?_, ?_⟩
  · exact (resolve_eq_inlined _ _).1.trans (congrArg _ (by decide +kernel))
  · exact (resolve_eq_inlined _ _).2.1.trans (congrArg _ (by decide +kernel))

end StyleSheet

end LogLine
