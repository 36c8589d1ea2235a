-- SUMMARY: Which texts name a colour: the documented spellings, and some with signs in them.
import LogLine.Proofs.Style.Inlining
import LogLine.Proofs.Text.Numeral

/-!
# Spellings of colours

A colour is spelled as a code, as a palette index or by a name. Reading takes every
spelling, but also some texts that are none: a palette index may have a plus sign before
it, and a channel of two digits may have one in place of the first. Such a sign counts as a
zero, and no other text names a colour.
-/

namespace LogLine

/-! ## Numerals of one byte -/

section Bytes

variable {base : Nat}

/-- The byte that a text without a sign writes. -/
def unsigned? (base : Nat) (t : Text) : Option (Fin 256) :=
  (Text.number? base t).bind fun n => if h : n < 256 then some ⟨n, h⟩ else none

theorem isSome_unsigned?_iff (hbase : base ≤ 16) (t : Text) :
    (unsigned? base t).isSome = true ↔ Text.WritesByte base t := by
  simp only [unsigned?, Option.isSome_iff_exists, Option.bind_eq_some_iff,
    Text.number?_eq_some_iff hbase, Option.dite_none_right_eq_some, Option.some.injEq]
  exact ⟨fun ⟨_, n, hn, hlt, _⟩ => ⟨n, hlt, hn⟩, fun ⟨n, hlt, hn⟩ => ⟨_, n, hn, hlt, rfl⟩⟩

theorem byte?_plus {t : Text} (h : t ≠ []) : byte? base ('+' :: t) = unsigned? base t := by
  cases t with
  | nil => exact absurd rfl h
  | cons c t => rfl

theorem byte?_of_not_plus {t : Text} (h : ∀ u, t ≠ '+' :: u) :
    byte? base t = unsigned? base t := by
  rw [byte?]
  · rfl
  · exact fun d rest => h (d :: rest)

/-- A numeral may have a sign before its digits. -/
theorem isSome_byte?_iff (hbase : base ≤ 16) (t : Text) :
    (byte? base t).isSome = true ↔
      Text.WritesByte base t ∨ ∃ u, t = '+' :: u ∧ Text.WritesByte base u := by
  by_cases hsign : ∃ u, t = '+' :: u
  · obtain ⟨u, rfl⟩ := hsign
    have hdigits : ¬ Text.WritesByte base ('+' :: u) :=
      fun h => h.ne_plus hbase List.mem_cons_self
    rcases eq_or_ne u [] with rfl | hu
    · have hnone : ¬ Text.WritesByte base [] := fun ⟨_, _, h⟩ => h.ne_nil rfl
      have hsingle : byte? base ['+'] = unsigned? base ['+'] := rfl
      rw [hsingle, isSome_unsigned?_iff hbase]
      simp [hdigits, hnone]
    · rw [byte?_plus hu, isSome_unsigned?_iff hbase]
      simp [hdigits]
  · rw [byte?_of_not_plus fun u h => hsign ⟨u, h⟩, isSome_unsigned?_iff hbase]
    exact ⟨.inl, fun h => h.resolve_right fun ⟨u, hu, _⟩ => hsign ⟨u, hu⟩⟩

theorem writesByte_singleton_iff (c : Char) : Text.WritesByte 16 [c] ↔ Text.place c < 16 := by
  refine ⟨fun ⟨_, _, h⟩ => h.digits c List.mem_cons_self, fun h => ?_⟩
  refine ⟨Text.place c, by omega, List.cons_ne_nil c [], by simpa using h, ?_⟩
  exact Nat.ofDigits_singleton

theorem writesByte_pair_iff (c d : Char) :
    Text.WritesByte 16 [c, d] ↔ Text.place c < 16 ∧ Text.place d < 16 := by
  constructor
  · rintro ⟨_, -, h⟩
    exact ⟨h.digits c (by simp), h.digits d (by simp)⟩
  · rintro ⟨hc, hd⟩
    have hvalue : Nat.ofDigits 16 ([c, d].reverse.map Text.place) =
        Text.place d + 16 * Text.place c := by
      simp [Nat.ofDigits_cons]
    exact ⟨Text.place d + 16 * Text.place c, by omega, List.cons_ne_nil c [d],
      by simp [hc, hd], hvalue⟩

end Bytes

/-! ## Spellings -/

/-- The documented spellings of a colour: a code of three or six digits, a palette index, one of the
    eight names, `gray` or `grey`, and the bright variant of one of the eight. Letters may be of
    either case. -/
inductive Color.IsSpelling : Text → Prop
  | code {digits : Text} (hlength : digits.length = 3 ∨ digits.length = 6)
      (hdigits : ∀ c ∈ digits, Text.place c < 16) : IsSpelling ('#' :: digits)
  | index {t : Text} (h : Text.WritesByte 10 t) : IsSpelling t
  | base (color : BaseColor) {t : Text} (h : Text.lower t = color.name) : IsSpelling t
  | grey {t : Text} (h : Text.lower t = "gray".toList ∨ Text.lower t = "grey".toList) :
      IsSpelling t
  | bright (color : BaseColor) {t : Text}
      (h : Text.lower t = "bright-".toList ++ color.name ∨
        Text.lower t = "bright_".toList ++ color.name) : IsSpelling t

/-- Spellings with a plus sign: before the digits of a palette index, or in place of the first digit
    of a channel of two. -/
inductive Color.IsSignedSpelling : Text → Prop
  | code {r r' g g' b b' : Char} (hsign : '+' ∈ [r, g, b])
      (hleads : ∀ c ∈ [r, g, b], c = '+' ∨ Text.place c < 16)
      (hdigits : ∀ c ∈ [r', g', b'], Text.place c < 16) :
      IsSignedSpelling ['#', r, r', g, g', b, b']
  | index {digits : Text} (h : Text.WritesByte 10 digits) : IsSignedSpelling ('+' :: digits)

theorem isSome_byte?_singleton (c : Char) :
    (byte? 16 [c]).isSome = true ↔ Text.place c < 16 := by
  have hnone : ¬ Text.WritesByte 16 [] := fun ⟨_, _, h⟩ => h.ne_nil rfl
  rw [isSome_byte?_iff (Nat.le_refl 16), writesByte_singleton_iff]
  simp [hnone]

theorem isSome_byte?_pair (c d : Char) : (byte? 16 [c, d]).isSome = true ↔
    (c = '+' ∨ Text.place c < 16) ∧ Text.place d < 16 := by
  rw [isSome_byte?_iff (Nat.le_refl 16), writesByte_pair_iff]
  simp only [List.cons.injEq, and_assoc, exists_and_left, exists_eq_left', writesByte_singleton_iff]
  tauto

theorem isSome_channels {α β : Type} (r g b : Option α) (f : α → α → α → β) :
    (do
      let x ← r
      let y ← g
      let z ← b
      some (f x y z)).isSome = true ↔ r.isSome = true ∧ g.isSome = true ∧ b.isSome = true := by
  cases r <;> cases g <;> cases b <;> simp

/-- A code has three digits, or three channels of two characters: a digit or a sign, and a digit. -/
theorem isSome_ofHex?_iff (hex : Text) :
    (Rgb.ofHex? hex).isSome = true ↔
      (hex.length = 3 ∧ ∀ c ∈ hex, Text.place c < 16) ∨
      ∃ r r' g g' b b', hex = [r, r', g, g', b, b'] ∧
        (∀ c ∈ [r, g, b], c = '+' ∨ Text.place c < 16) ∧
        ∀ c ∈ [r', g', b'], Text.place c < 16 := by
  unfold Rgb.ofHex?
  split
  · next r g b =>
    rw [isSome_channels]
    simp [isSome_byte?_singleton]
  · next r r' g g' b b' =>
    simp only [isSome_channels, isSome_byte?_pair]
    constructor
    · rintro ⟨⟨hr, hr'⟩, ⟨hg, hg'⟩, hb, hb'⟩
      exact .inr ⟨r, r', g, g', b, b', rfl, by simp [hr, hg, hb], by simp [hr', hg', hb']⟩
    · rintro (⟨hlength, -⟩ | ⟨_, _, _, _, _, _, ⟨⟩, hleads, hdigits⟩)
      · cases hlength
      · simp only [List.forall_mem_cons] at hleads hdigits
        exact ⟨⟨hleads.1, hdigits.1⟩, ⟨hleads.2.1, hdigits.2.1⟩, hleads.2.2.1, hdigits.2.2.1⟩
  · next hthree hsix =>
    refine ⟨nofun, ?_⟩
    rintro (⟨hlength, -⟩ | ⟨r, r', g, g', b, b', hchannels, -⟩)
    · obtain ⟨r, g, b, hdigits⟩ := List.length_eq_three.mp hlength
      exact absurd hdigits (hthree r g b)
    · exact absurd hchannels (hsix r r' g g' b b')

namespace Color

/-! ## Reading -/

theorem ofText?_hash {t hex : Text} (h : Text.trim t = '#' :: hex) :
    ofText? t = (Rgb.ofHex? hex).map fun c => .palette c.toPalette := by
  rw [ofText?, h]
  rfl

theorem ofText?_of_not_hash {t : Text} (h : ∀ hex, Text.trim t ≠ '#' :: hex) :
    ofText? t =
      (((byte? 10 (Text.trim t)).map palette) <|> ofName? (Text.lower (Text.trim t))) := by
  unfold ofText?
  split
  · next hex hhash => exact absurd hhash (h hex)
  · rfl

end Color

theorem BaseColor.eq_name_of_ofName? {name : Text} {color : BaseColor}
    (h : ofName? name = some color) : name = color.name := by
  unfold ofName? at h
  split_ifs at h with hname hname hname hname hname hname hname hname
  all_goals
    cases h
    exact hname

theorem Color.isSome_ofName?_iff (name : Text) :
    (ofName? name).isSome = true ↔
      (∃ color : BaseColor, name = color.name) ∨ (name = "gray".toList ∨ name = "grey".toList) ∨
        ∃ color : BaseColor,
          name = "bright-".toList ++ color.name ∨ name = "bright_".toList ++ color.name := by
  constructor
  · intro h
    unfold ofName? at h
    split at h
    · next rest hrest =>
      rw [Option.isSome_map] at h
      obtain ⟨color, hcolor⟩ := Option.isSome_iff_exists.mp h
      obtain rfl := BaseColor.eq_name_of_ofName? hcolor
      rw [Option.orElse_eq_orElse, Option.orElse_eq_or, Option.or_eq_some_iff] at hrest
      refine .inr (.inr ⟨color, ?_⟩)
      rcases hrest with hdash | ⟨-, hunderscore⟩
      · exact .inl (Text.after?_eq_some_iff.mp hdash)
      · exact .inr (Text.after?_eq_some_iff.mp hunderscore)
    · split at h
      · next hgrey => exact .inr (.inl hgrey)
      · rw [Option.isSome_map] at h
        obtain ⟨color, hcolor⟩ := Option.isSome_iff_exists.mp h
        exact .inl ⟨color, BaseColor.eq_name_of_ofName? hcolor⟩
  · rintro (⟨color, rfl⟩ | (rfl | rfl) | ⟨color, rfl | rfl⟩)
    · cases color <;> rfl
    · rfl
    · rfl
    · cases color <;> rfl
    · cases color <;> rfl

namespace Color

/-! ## Accepted spellings -/

theorem marks_of_isSome_ofName? {t : Text} (h : (ofName? (Text.lower t)).isSome = true) :
    '#' ∉ t ∧ '+' ∉ t := by
  have hlower : '#' ∉ Text.lower t ∧ '+' ∉ Text.lower t := by
    rcases (isSome_ofName?_iff _).mp h with ⟨color, hname⟩ | hname | ⟨color, hname⟩
    · rw [hname]
      cases color <;> decide
    · rcases hname with hname | hname <;> rw [hname] <;> decide
    · rcases hname with hname | hname <;> rw [hname] <;> cases color <;> decide
  exact ⟨fun hmem => hlower.1 (List.mem_map.mpr ⟨'#', hmem, rfl⟩),
    fun hmem => hlower.2 (List.mem_map.mpr ⟨'+', hmem, rfl⟩)⟩

/-- A spelling is a code, a palette index or a name. -/
theorem isSpelling_iff (t : Text) :
    IsSpelling t ↔
      (∃ hex : Text, t = '#' :: hex ∧ (hex.length = 3 ∨ hex.length = 6) ∧
        ∀ c ∈ hex, Text.place c < 16) ∨
      Text.WritesByte 10 t ∨ (ofName? (Text.lower t)).isSome = true := by
  rw [isSome_ofName?_iff]
  constructor
  · intro h
    cases h with
    | code hlength hdigits => exact .inl ⟨_, rfl, hlength, hdigits⟩
    | index hindex => exact .inr (.inl hindex)
    | base color hbase => exact .inr (.inr (.inl ⟨color, hbase⟩))
    | grey hgrey => exact .inr (.inr (.inr (.inl hgrey)))
    | bright color hbright => exact .inr (.inr (.inr (.inr ⟨color, hbright⟩)))
  · rintro (⟨hex, rfl, hlength, hdigits⟩ | hindex | ⟨color, hbase⟩ | hgrey | ⟨color, hbright⟩)
    · exact .code hlength hdigits
    · exact .index hindex
    · exact .base color hbase
    · exact .grey hgrey
    · exact .bright color hbright

/-- No spelling has a sign. -/
theorem IsSpelling.not_plus_mem {t : Text} (h : IsSpelling t) : '+' ∉ t := by
  rcases (isSpelling_iff t).mp h with ⟨hex, rfl, -, hdigits⟩ | hindex | hname
  · intro hmem
    have hplus : '+' ∈ hex := (List.mem_cons.mp hmem).resolve_left (by decide)
    exact absurd (hdigits '+' hplus) (by decide)
  · exact hindex.ne_plus (by decide)
  · exact (marks_of_isSome_ofName? hname).2

theorem IsSignedSpelling.plus_mem {t : Text} (h : IsSignedSpelling t) : '+' ∈ t := by
  cases h with
  | code hsign _ _ => simp only [List.mem_cons] at hsign ⊢; tauto
  | index _ => exact List.mem_cons_self

/-- After a hash only codes are spellings. -/
theorem isSpelling_hash_iff (hex : Text) :
    IsSpelling ('#' :: hex) ↔
      (hex.length = 3 ∨ hex.length = 6) ∧ ∀ c ∈ hex, Text.place c < 16 := by
  refine ⟨fun h => ?_, fun h => .code h.1 h.2⟩
  rcases (isSpelling_iff _).mp h with ⟨_, ⟨⟩, hcode⟩ | ⟨_, -, hindex⟩ | hname
  · exact hcode
  · exact absurd (hindex.digits '#' List.mem_cons_self) (by decide)
  · exact absurd List.mem_cons_self (marks_of_isSome_ofName? hname).1

theorem isSome_ofHex?_iff_spelling (hex : Text) :
    (Rgb.ofHex? hex).isSome = true ↔ IsSpelling ('#' :: hex) ∨ IsSignedSpelling ('#' :: hex) := by
  rw [isSome_ofHex?_iff, isSpelling_hash_iff]
  constructor
  · rintro (⟨hlength, hdigits⟩ | ⟨r, r', g, g', b, b', rfl, hleads, hdigits⟩)
    · exact .inl ⟨.inl hlength, hdigits⟩
    · by_cases hsign : '+' ∈ [r, g, b]
      · exact .inr (.code hsign hleads hdigits)
      · have hlead {c : Char} (hc : c ∈ [r, g, b]) : Text.place c < 16 :=
          (hleads c hc).resolve_left fun hplus => hsign (hplus ▸ hc)
        simp only [List.forall_mem_cons] at hdigits
        exact .inl ⟨.inr rfl, by simp [hlead, hdigits]⟩
  · rintro (⟨hlength | hlength, hdigits⟩ | h)
    · exact .inl ⟨hlength, hdigits⟩
    · match hex, hlength with
      | [r, r', g, g', b, b'], _ =>
        simp only [List.forall_mem_cons] at hdigits
        exact .inr ⟨r, r', g, g', b, b', rfl, by simp [hdigits], by simp [hdigits]⟩
    · cases h with
      | code hsign hleads hdigits => exact .inr ⟨_, _, _, _, _, _, rfl, hleads, hdigits⟩

theorem isSome_ofText?_iff (t : Text) :
    (ofText? t).isSome = true ↔
      IsSpelling (Text.trim t) ∨ IsSignedSpelling (Text.trim t) := by
  by_cases hhash : ∃ hex, Text.trim t = '#' :: hex
  · obtain ⟨hex, hhash⟩ := hhash
    rw [ofText?_hash hhash, Option.isSome_map, isSome_ofHex?_iff_spelling, hhash]
  · rw [ofText?_of_not_hash fun hex h => hhash ⟨hex, h⟩, Option.orElse_eq_orElse,
      Option.orElse_eq_or, Option.isSome_or, Bool.or_eq_true, Option.isSome_map,
      isSome_byte?_iff (by decide), isSpelling_iff]
    generalize Text.trim t = u at hhash
    constructor
    · rintro ((hindex | ⟨digits, rfl, hindex⟩) | hname)
      · exact .inl (.inr (.inl hindex))
      · exact .inr (.index hindex)
      · exact .inl (.inr (.inr hname))
    · rintro ((⟨hex, hcode, -⟩ | hindex | hname) | h)
      · exact absurd ⟨hex, hcode⟩ hhash
      · exact .inl (.inl hindex)
      · exact .inr hname
      · cases h with
        | code _ _ _ => exact absurd ⟨_, rfl⟩ hhash
        | index hindex => exact .inl (.inr ⟨_, rfl, hindex⟩)

/-! ## Signs -/

/-- A text with a zero for every plus sign. -/
def zeroSigns (t : Text) : Text := t.map fun c => if c = '+' then '0' else c

theorem zeroSigns_of_not_mem {t : Text} (h : '+' ∉ t) : zeroSigns t = t := by
  refine (List.map_congr_left fun c hc => if_neg ?_).trans (List.map_id t)
  rintro rfl
  exact h hc

theorem place_zeroSign {c : Char} (h : c = '+' ∨ Text.place c < 16) :
    Text.place (if c = '+' then '0' else c) < 16 := by
  split
  · decide
  · next hne => exact h.resolve_left hne

/-- A sign before a digit counts as a zero. -/
theorem byte?_zeroSign {c d : Char} (hd : Text.place d < 16) :
    byte? 16 [if c = '+' then '0' else c, if d = '+' then '0' else d] = byte? 16 [c, d] := by
  have hne : d ≠ '+' := by
    rintro rfl
    exact absurd hd (by decide)
  rw [if_neg hne]
  split
  · next hplus =>
    rw [hplus, byte?_plus (List.cons_ne_nil d []), byte?_of_not_plus (by simp), unsigned?,
      unsigned?, Text.number?_zero_cons (by decide) (Nat.le_refl 16) (List.cons_ne_nil d [])]
  · rfl

theorem IsSignedSpelling.isSpelling_zeroSigns {t : Text} (h : IsSignedSpelling t) :
    IsSpelling (zeroSigns t) := by
  cases h with
  | code hsign hleads hdigits =>
    refine IsSpelling.code (.inr rfl) ?_
    simp only [List.forall_mem_cons] at hleads hdigits
    simp only [List.map_cons, List.map_nil, List.forall_mem_cons]
    exact ⟨place_zeroSign hleads.1, place_zeroSign (.inr hdigits.1), place_zeroSign hleads.2.1,
      place_zeroSign (.inr hdigits.2.1), place_zeroSign hleads.2.2.1,
      place_zeroSign (.inr hdigits.2.2.1), nofun⟩
  | @index digits hindex =>
    have hzero : zeroSigns ('+' :: digits) = '0' :: digits :=
      congrArg ('0' :: ·) (zeroSigns_of_not_mem (hindex.ne_plus (by decide)))
    obtain ⟨n, hlt, hwrites⟩ := hindex
    rw [hzero]
    refine .index ⟨n, hlt, (Text.number?_eq_some_iff (by decide)).mp ?_⟩
    rw [Text.number?_zero_cons (by decide) (by decide) hwrites.ne_nil]
    exact (Text.number?_eq_some_iff (by decide)).mpr hwrites

theorem IsSignedSpelling.not_blank {t : Text} (h : IsSignedSpelling t) :
    ∀ c ∈ t, Text.isBlank c = false := by
  have hlead {c : Char} (hc : c = '+' ∨ Text.place c < 16) : Text.isBlank c = false := by
    rcases hc with rfl | hc
    · decide
    · exact Text.isBlank_of_place_lt hc
  cases h with
  | code hsign hleads hdigits =>
    simp only [List.forall_mem_cons] at hleads hdigits ⊢
    exact ⟨by decide, hlead hleads.1, hlead (.inr hdigits.1), hlead hleads.2.1,
      hlead (.inr hdigits.2.1), hlead hleads.2.2.1, hlead (.inr hdigits.2.2.1), nofun⟩
  | index hindex =>
    obtain ⟨_, -, hwrites⟩ := hindex
    refine List.forall_mem_cons.mpr ⟨by decide, fun c hc => ?_⟩
    exact hlead (.inr ((hwrites.digits c hc).trans (by decide)))

theorem IsSignedSpelling.trim_zeroSigns {t : Text} (h : IsSignedSpelling t) :
    Text.trim (zeroSigns t) = zeroSigns t := by
  refine Text.trim_of_not_blank fun d hd => ?_
  obtain ⟨c, hc, rfl⟩ := List.mem_map.mp hd
  split
  · decide
  · exact h.not_blank c hc

/-- A signed spelling is read with zeroes for its signs. -/
theorem IsSignedSpelling.ofText?_zeroSigns {t : Text} (h : IsSignedSpelling (Text.trim t)) :
    ofText? (zeroSigns (Text.trim t)) = ofText? t := by
  have hzero := h.trim_zeroSigns
  generalize hu : Text.trim t = u at h hzero ⊢
  cases h with
  | @code r r' g g' b b' hsign hleads hdigits =>
    simp only [List.forall_mem_cons] at hdigits
    rw [ofText?_hash hzero, ofText?_hash hu]
    simp only [List.map_cons, List.map_nil, Rgb.ofHex?, byte?_zeroSign hdigits.1,
      byte?_zeroSign hdigits.2.1, byte?_zeroSign hdigits.2.2.1]
  | @index digits hindex =>
    have hzeroes : zeroSigns ('+' :: digits) = '0' :: digits :=
      congrArg ('0' :: ·) (zeroSigns_of_not_mem (hindex.ne_plus (by decide)))
    have hne : digits ≠ [] := fun h => hindex.elim fun _ hn => hn.2.ne_nil h
    have hsame : byte? 10 ('0' :: digits) = byte? 10 ('+' :: digits) := by
      rw [byte?_plus hne, byte?_of_not_plus (by simp), unsigned?, unsigned?,
        Text.number?_zero_cons (by decide) (by decide) hne]
    have hsome : (byte? 10 ('+' :: digits)).isSome = true :=
      (isSome_byte?_iff (by decide) _).mpr (.inr ⟨digits, rfl, hindex⟩)
    obtain ⟨n, hn⟩ := Option.isSome_iff_exists.mp hsome
    rw [hzeroes] at hzero ⊢
    rw [ofText?_of_not_hash (by simp [hzero]), ofText?_of_not_hash (by simp [hu]), hzero, hu, hsame,
      hn]
    rfl

/-- Without the blanks around it, a text that names a colour is a spelling of it, or a signed
    spelling. A signed spelling is no spelling; it names the same colour as the spelling that has
    zeroes for its signs. After `fg:` or `bg:`, a text that names no colour leaves every style as
    it was. -/
theorem spelled_or_signed (t : Text) :
    ((ofText? t).isSome = true ↔
      IsSpelling (Text.trim t) ∨ IsSignedSpelling (Text.trim t)) ∧
    (IsSignedSpelling (Text.trim t) →
      ¬ IsSpelling (Text.trim t) ∧ IsSpelling (zeroSigns (Text.trim t)) ∧
        ofText? (zeroSigns (Text.trim t)) = ofText? t) ∧
    (ofText? t = none → ∀ byName s,
      (StyleItem.ofText ("fg:".toList ++ t)).applyWith byName s = s ∧
        (StyleItem.ofText ("bg:".toList ++ t)).applyWith byName s = s) := by
  refine ⟨isSome_ofText?_iff t, fun h => ?_, fun h byName s => ?_⟩
  · exact ⟨fun hspelling => hspelling.not_plus_mem h.plus_mem, h.isSpelling_zeroSigns,
      h.ofText?_zeroSigns⟩
  · have hforeground : StyleItem.ofText ("fg:".toList ++ t) = .foreground (ofText? t) := rfl
    have hbackground : StyleItem.ofText ("bg:".toList ++ t) = .background (ofText? t) := rfl
    rw [hforeground, hbackground, h]
    exact ⟨rfl, rfl⟩

theorem spelled_or_signed_channels :
    IsSignedSpelling "#+1b2+c".toList ∧ ¬ IsSpelling "#+1b2+c".toList ∧
      IsSpelling "#01b20c".toList ∧ ofText? "#01b20c".toList = ofText? " #+1b2+c".toList := by
  have hsigned : IsSignedSpelling ['#', '+', '1', 'b', '2', '+', 'c'] :=
    .code (by decide) (List.forall_iff_forall_mem.mp (by decide))
      (List.forall_iff_forall_mem.mp (by decide))
  obtain ⟨-, hread, -⟩ := spelled_or_signed " #+1b2+c".toList
  exact ⟨hsigned, hread hsigned⟩

/-- Some texts name a colour that are no spellings of one. -/
theorem exists_signed_index :
    (ofText? "+5".toList).isSome = true ∧ ¬ IsSpelling (Text.trim "+5".toList) :=
  ⟨by decide +kernel, fun h => h.not_plus_mem (by decide)⟩

end Color

end LogLine
