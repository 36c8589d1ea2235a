-- SUMMARY: The colours of palette entries, and how near the entry for a triplet is to it.
import LogLine.Style.Color
import Mathlib.Algebra.Order.Ring.Abs
import Mathlib.Algebra.Order.Ring.Int
import Mathlib.Data.Fintype.Basic
import Mathlib.Tactic.Linarith

/-!
# Palette entries for triplets

After its first sixteen entries the palette has a cube with six levels a channel and a ramp
of greys. The entry for a triplet is found by rounding each channel down to a level, or along
the ramp for a grey. An entry is nearest if each channel has its nearest level and no grey of
the ramp is nearer; rounding down does not always give this, but it never gives a colour that
is far off.
-/

namespace LogLine

namespace Rgb

/-! ## Entries -/

/-- A channel's levels in the cube: 0, 95, 135, 175, 215 and 255. The first step is wider than the
    others. -/
def level (k : Fin 6) : Fin 256 := ⟨if k.val = 0 then 0 else 55 + 40 * k.val, by split <;> omega⟩

/-- The colour of the cube with the given levels. -/
def cube (r g b : Fin 6) : Rgb := ⟨level r, level g, level b⟩

/-- A grey of the ramp, from dark to light. -/
def grey (j : Fin 24) : Rgb :=
  let shade : Fin 256 := ⟨8 + 10 * j.val, by omega⟩
  ⟨shade, shade, shade⟩

/-- The colour of an entry. The first sixteen have none of their own: the terminal chooses it. -/
def ofPalette? (i : Fin 256) : Option Rgb :=
  if i.val < 16 then none
  else if h : i.val < 232 then
    some (cube ⟨(i.val - 16) / 36, by omega⟩ ⟨(i.val - 16) / 6 % 6, by omega⟩
      ⟨(i.val - 16) % 6, by omega⟩)
  else some (grey ⟨i.val - 232, by omega⟩)

theorem ofPalette?_cube (r g b : Fin 6) :
    ofPalette? ⟨16 + 36 * r.val + 6 * g.val + b.val, by omega⟩ = some (cube r g b) := by
  revert r g b
  decide +kernel

theorem ofPalette?_grey (j : Fin 24) :
    ofPalette? ⟨232 + j.val, by omega⟩ = some (grey j) := by
  revert j
  decide +kernel

/-- The colours of the entries are those of the cube and the ramp. -/
theorem forall_ofPalette?_iff {P : Rgb → Prop} :
    (∀ i p, ofPalette? i = some p → P p) ↔ (∀ r g b, P (cube r g b)) ∧ ∀ j, P (grey j) := by
  constructor
  · intro h
    exact ⟨fun r g b => h _ _ (ofPalette?_cube r g b), fun j => h _ _ (ofPalette?_grey j)⟩
  · rintro ⟨hcube, hgrey⟩ i p hp
    unfold ofPalette? at hp
    split_ifs at hp
    · exact Option.some.inj hp ▸ hcube _ _ _
    · exact Option.some.inj hp ▸ hgrey _

/-! ## Distance -/

def channels : List (Rgb → Fin 256) := [red, green, blue]

/-- The distance of two colours, squared. -/
def distance (c d : Rgb) : Int := (channels.map fun ch => ((ch c : Int) - ch d) ^ 2).sum

theorem distance_eq (c d : Rgb) :
    distance c d = ((c.red : Int) - d.red) ^ 2 + ((c.green : Int) - d.green) ^ 2 +
      ((c.blue : Int) - d.blue) ^ 2 := by
  simp [distance, channels, add_assoc]

/-- No entry with a colour of its own is nearer. -/
def IsNearest (c : Rgb) (i : Fin 256) : Prop :=
  ∃ p, ofPalette? i = some p ∧ ∀ j q, ofPalette? j = some q → distance c p ≤ distance c q

def IsGrey (c : Rgb) : Prop := c.red = c.green ∧ c.green = c.blue

instance (c : Rgb) : Decidable c.IsGrey := inferInstanceAs (Decidable (_ ∧ _))

theorem IsGrey.channel_eq {c : Rgb} (h : c.IsGrey) {ch : Rgb → Fin 256} (hch : ch ∈ channels) :
    ch c = c.red := by
  simp only [channels, List.mem_cons, List.not_mem_nil, or_false] at hch
  rcases hch with rfl | rfl | rfl
  · rfl
  · exact h.1.symm
  · exact (h.1.trans h.2).symm

/-- No level is nearer to the channel of a colour than that of another colour. -/
def Levelled (c p : Rgb) (ch : Rgb → Fin 256) : Prop :=
  ∀ k, |(ch c : Int) - ch p| ≤ |(ch c : Int) - level k|

/-- In the cube each channel can be chosen by itself, so a colour of it is nearest if each channel
    is. For a grey, the same holds of greys, because there the channels agree. -/
theorem forall_distance_le_iff {c p : Rgb}
    (hp : (∃ r g b, p = cube r g b) ∨ c.IsGrey ∧ p.IsGrey) :
    (∀ i q, ofPalette? i = some q → distance c p ≤ distance c q) ↔
      (∀ ch ∈ channels, Levelled c p ch) ∧ ∀ j, distance c p ≤ distance c (grey j) := by
  rw [forall_ofPalette?_iff]
  refine and_congr_left fun _ => ⟨fun hcube => ?_, fun hlevelled r g b => ?_⟩
  · -- one channel is varied and the others are kept; of greys all three are varied together
    have hsquares (k : Fin 6) : ∀ ch ∈ channels,
        ((ch c : Int) - ch p) ^ 2 ≤ ((ch c : Int) - level k) ^ 2 := by
      simp only [channels, List.forall_mem_cons, List.not_mem_nil, false_implies, implies_true,
        and_true]
      rcases hp with ⟨r, g, b, rfl⟩ | ⟨⟨hred, hgreen⟩, hred', hgreen'⟩
      · have hr := hcube k g b
        have hg := hcube r k b
        have hb := hcube r g k
        simp only [distance_eq, cube, add_le_add_iff_left, add_le_add_iff_right] at hr hg hb ⊢
        exact ⟨hr, hg, hb⟩
      · have hshade := hcube k k k
        simp only [distance_eq, cube, hred, hgreen, hred', hgreen'] at hshade ⊢
        exact ⟨by linarith, by linarith, by linarith⟩
    exact fun ch hch k => sq_le_sq.mp (hsquares k ch hch)
  · simp only [channels, List.forall_mem_cons, Levelled, ← sq_le_sq] at hlevelled
    obtain ⟨hred, hgreen, hblue, -⟩ := hlevelled
    rw [distance_eq, distance_eq]
    exact add_le_add (add_le_add (hred r) (hgreen g)) (hblue b)

/-! ## Rounding down -/

/-- The level below a channel. -/
def levelBelow (v : Fin 256) : Fin 6 := ⟨v.val * 5 / 255, by omega⟩

/-- The channels for which the level that is rounded down to is a nearest one. -/
def Rounded (v : Fin 256) : Prop :=
  v.val ≤ 47 ∨ (51 ≤ v.val ∧ v.val ≤ 101) ∨ (115 ≤ v.val ∧ v.val ≤ 152) ∨
    (155 ≤ v.val ∧ v.val ≤ 195) ∨ (204 ≤ v.val ∧ v.val ≤ 235) ∨ v.val = 255

instance (v : Fin 256) : Decidable (Rounded v) := inferInstanceAs (Decidable (_ ∨ _))

theorem forall_level_iff (v : Fin 256) :
    (∀ k, |(v : Int) - level (levelBelow v)| ≤ |(v : Int) - level k|) ↔ Rounded v := by
  revert v
  decide +kernel

theorem abs_sub_levelBelow_le (v : Fin 256) : |(v : Int) - level (levelBelow v)| ≤ 50 := by
  revert v
  decide +kernel

/-- The shade that stands for a grey: black, white, or a shade of the ramp. -/
def shade (v : Fin 256) : Rgb :=
  if v.val < 8 then cube 0 0 0
  else if h : 248 < v.val then cube 5 5 5
  else grey ⟨(v.val - 8) * 24 / 247, by omega⟩

theorem isGrey_shade (v : Fin 256) : (shade v).IsGrey := by
  unfold shade
  split_ifs <;> exact ⟨rfl, rfl⟩

theorem abs_sub_shade_le (v : Fin 256) : |(v : Int) - (shade v).red| ≤ 16 := by
  revert v
  decide +kernel

/-! ## The entry for a triplet -/

theorem ofPalette?_toPalette_of_not_isGrey {c : Rgb} (h : ¬ c.IsGrey) :
    ofPalette? c.toPalette =
      some (cube (levelBelow c.red) (levelBelow c.green) (levelBelow c.blue)) := by
  unfold IsGrey at h
  rw [toPalette, if_neg h]
  exact ofPalette?_cube (levelBelow c.red) (levelBelow c.green) (levelBelow c.blue)

theorem ofPalette?_toPalette_of_isGrey {c : Rgb} (h : c.IsGrey) :
    ofPalette? c.toPalette = some (shade c.red) := by
  unfold IsGrey at h
  rw [toPalette, if_pos h, shade]
  split_ifs
  · exact ofPalette?_cube 0 0 0
  · exact ofPalette?_cube 5 5 5
  · exact ofPalette?_grey ⟨(c.red.val - 8) * 24 / 247, by omega⟩

/-- The colour of the entry for a triplet. -/
def shown (c : Rgb) : Rgb :=
  if c.IsGrey then shade c.red
  else cube (levelBelow c.red) (levelBelow c.green) (levelBelow c.blue)

theorem ofPalette?_toPalette (c : Rgb) : ofPalette? c.toPalette = some c.shown := by
  by_cases h : c.IsGrey
  · rw [ofPalette?_toPalette_of_isGrey h, shown, if_pos h]
  · rw [ofPalette?_toPalette_of_not_isGrey h, shown, if_neg h]

theorem isNearest_toPalette_iff (c : Rgb) :
    c.IsNearest c.toPalette ↔
      ∀ i q, ofPalette? i = some q → distance c c.shown ≤ distance c q := by
  unfold IsNearest
  rw [ofPalette?_toPalette]
  exact ⟨fun ⟨_, hp, hle⟩ => Option.some.inj hp ▸ hle, fun h => ⟨_, rfl, h⟩⟩

theorem shown_channel {c : Rgb} (h : ¬ c.IsGrey) :
    ∀ ch ∈ channels, ch c.shown = level (levelBelow (ch c)) := by
  simp [shown, if_neg h, channels, cube]

/-- A triplet has an entry of the cube or the ramp, and every channel of its colour is at most 50
    away, for a grey at most 16. The entry is a nearest one exactly if each channel has a nearest
    level and no grey of the ramp is nearer; but for greys, the channels that have a nearest level
    are those that rounding down does not take too far. -/
theorem toPalette_nearest_iff (c : Rgb) :
    16 ≤ c.toPalette.val ∧ ofPalette? c.toPalette = some c.shown ∧
    (∀ ch ∈ channels, |(ch c : Int) - ch c.shown| ≤ if c.IsGrey then 16 else 50) ∧
    (c.IsNearest c.toPalette ↔
      (∀ ch ∈ channels, Levelled c c.shown ch) ∧
      ∀ j, distance c c.shown ≤ distance c (grey j)) ∧
    (¬ c.IsGrey → ∀ ch ∈ channels, Levelled c c.shown ch ↔ Rounded (ch c)) := by
  have hentry := ofPalette?_toPalette c
  refine ⟨?_, hentry, ?_, ?_, ?_⟩
  · by_contra hlow
    rw [ofPalette?, if_pos (Nat.lt_of_not_le hlow)] at hentry
    cases hentry
  · intro ch hch
    by_cases h : c.IsGrey
    · rw [if_pos h, shown, if_pos h, h.channel_eq hch, (isGrey_shade c.red).channel_eq hch]
      exact abs_sub_shade_le c.red
    · rw [if_neg h, shown_channel h ch hch]
      exact abs_sub_levelBelow_le (ch c)
  · have hplace : (∃ r g b, c.shown = cube r g b) ∨ c.IsGrey ∧ c.shown.IsGrey := by
      by_cases h : c.IsGrey
      · exact .inr ⟨h, by rw [shown, if_pos h]; exact isGrey_shade c.red⟩
      · exact .inl ⟨_, _, _, by rw [shown, if_neg h]⟩
    rw [isNearest_toPalette_iff, forall_distance_le_iff hplace]
  · intro h ch hch
    rw [Levelled, shown_channel h ch hch]
    exact forall_level_iff (ch c)

/-! Every channel of this triplet has its nearest level, but a grey of the ramp is nearer. -/

theorem toPalette_nearest_greyish :
    (∀ ch ∈ channels, Levelled ⟨100, 101, 100⟩ (shown ⟨100, 101, 100⟩) ch) ∧
    ¬ IsNearest ⟨100, 101, 100⟩ (toPalette ⟨100, 101, 100⟩) := by
  obtain ⟨-, -, -, hnearest, hlevelled⟩ := toPalette_nearest_iff ⟨100, 101, 100⟩
  refine ⟨fun ch hch => (hlevelled (by decide) ch hch).mpr ?_, fun h => ?_⟩
  · simp only [channels, List.mem_cons, List.not_mem_nil, or_false] at hch
    rcases hch with rfl | rfl | rfl <;> decide
  · exact absurd ((hnearest.mp h).2 9) (by decide)

/-- Rounding down can miss the nearest entry: for a red that is almost pure it takes the level
    before the last. -/
theorem exists_nearer_entry : ¬ ∀ c : Rgb, 16 ≤ c.toPalette.val ∧ c.IsNearest c.toPalette := by
  intro h
  obtain ⟨p, hp, hle⟩ := (h ⟨254, 0, 0⟩).2
  have hfound : ofPalette? (toPalette ⟨254, 0, 0⟩) = some ⟨215, 0, 0⟩ := by decide
  cases Option.some.inj (hp.symm.trans hfound)
  exact absurd (hle 196 ⟨255, 0, 0⟩ (by decide)) (by decide)

end Rgb

end LogLine
