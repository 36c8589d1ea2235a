-- SUMMARY: A screen that reads painted text shows every character in the style of its run.
import LogLine.Proofs.Style.Painted
import LogLine.Proofs.Text.Parts

/-!
# Painted text on a screen

A screen takes characters one at a time. It shows them in the style that was
selected last, and select-graphic-rendition sequences select a style instead of
being shown. Given a styled text, it shows the characters of every run in
exactly the style of that run, and it is back in the default style after each
of them.
-/

namespace LogLine

/-- A character as a screen shows it. -/
structure Cell where
  char : Char
  style : Style
deriving DecidableEq

/-! ## Screens -/

/-- Where in its input a screen stands. -/
inductive Screen.Mode where
  | text
  /-- After an escape character. -/
  | escape
  /-- In the parameters of a sequence, with the characters read so far, the latest first. -/
  | sequence (read : Text)
deriving DecidableEq

/-- A screen, with the style in which it shows the next character. -/
structure Screen where
  mode : Screen.Mode := .text
  style : Style := .default
deriving DecidableEq

namespace Screen

/-- The colours in the terminal's order. -/
def baseColor? : Nat → Option BaseColor
  | 0 => some .black
  | 1 => some .red
  | 2 => some .green
  | 3 => some .yellow
  | 4 => some .blue
  | 5 => some .magenta
  | 6 => some .cyan
  | 7 => some .white
  | _ => none

def paletteColor? (i : Nat) : Option Color :=
  if h : i < 256 then some (.palette ⟨i, h⟩) else none

def attribute? : Nat → Option Attribute
  | 1 => some .bold
  | 2 => some .dim
  | 3 => some .italic
  | 4 => some .underline
  | 5 => some .blink
  | 7 => some .reverse
  | 8 => some .hidden
  | 9 => some .strike
  | _ => none

/-- What a number that stands for itself does to the style: zero resets it, the other digits add
    attributes, the thirties choose a foreground and the forties a background. -/
def selectOne (n : Nat) (s : Style) : Style :=
  match n / 10, n % 10 with
  | 0, 0 => .default
  | 0, digit => (attribute? digit).elim s (s.withAttribute ·)
  | 3, digit => (baseColor? digit).elim s fun c => s.withForeground (.base c)
  | 4, digit => (baseColor? digit).elim s fun c => s.withBackground (.base c)
  | _, _ => s

/-- What the numbers of a sequence do to the style, from left to right. A palette entry takes
    three of them. -/
def select : List Nat → Style → Style
  | [], s => s
  | 38 :: 5 :: i :: rest, s => select rest ((paletteColor? i).elim s (s.withForeground ·))
  | 48 :: 5 :: i :: rest, s => select rest ((paletteColor? i).elim s (s.withBackground ·))
  | n :: rest, s => select rest (selectOne n s)

/-- The numbers between semicolons. One that is left out is zero. -/
def numbers (parameters : Text) : List Nat :=
  (parameters.splitOn ';').map (Nat.ofDigitChars 10 · 0)

/-- Takes the next character. A sequence that ends in another way than with `m`, or that does not
    begin with a bracket, is passed over. -/
def feed (screen : Screen) (c : Char) : Screen × List Cell :=
  match screen.mode with
  | .text =>
    if c = '\x1b' then ({ screen with mode := .escape }, []) else (screen, [⟨c, screen.style⟩])
  | .escape => ({ screen with mode := if c = '[' then .sequence [] else .text }, [])
  | .sequence read =>
    if c = 'm' then (⟨.text, select (numbers read.reverse) screen.style⟩, [])
    else if Text.isSgrParameter c then ({ screen with mode := .sequence (c :: read) }, [])
    else ({ screen with mode := .text }, [])

/-- Takes a text, and gives the cells that it shows. -/
def feedAll : Screen → Text → Screen × List Cell
  | screen, [] => (screen, [])
  | screen, c :: rest =>
    let (next, cells) := screen.feed c
    let (last, more) := feedAll next rest
    (last, cells ++ more)

theorem feedAll_cons (screen : Screen) (c : Char) (t : Text) :
    screen.feedAll (c :: t) =
      (((screen.feed c).1.feedAll t).1, (screen.feed c).2 ++ ((screen.feed c).1.feedAll t).2) := rfl

/-- A screen can take its input in parts. -/
theorem feedAll_append (screen : Screen) (t u : Text) :
    screen.feedAll (t ++ u) =
      (((screen.feedAll t).1.feedAll u).1,
        (screen.feedAll t).2 ++ ((screen.feedAll t).1.feedAll u).2) := by
  induction t generalizing screen with
  | nil => rfl
  | cons c t ih => simp only [List.cons_append, feedAll_cons, ih, List.append_assoc]

/-- Text without escape characters is shown as it is. -/
theorem feedAll_text {t : Text} (h : '\x1b' ∉ t) (s : Style) :
    feedAll ⟨.text, s⟩ t = (⟨.text, s⟩, t.map (⟨·, s⟩)) := by
  induction t with
  | nil => rfl
  | cons c t ih =>
    simp only [List.mem_cons, not_or] at h
    have hfeed : feed ⟨.text, s⟩ c = (⟨.text, s⟩, [⟨c, s⟩]) := if_neg (Ne.symm h.1)
    rw [feedAll_cons, hfeed, ih h.2]
    rfl

theorem feedAll_parameters {parameters : Text}
    (h : ∀ c ∈ parameters, Text.isSgrParameter c = true) (read : Text) (s : Style) :
    feedAll ⟨.sequence read, s⟩ parameters = (⟨.sequence (parameters.reverse ++ read), s⟩, []) := by
  induction parameters generalizing read with
  | nil => rfl
  | cons c parameters ih =>
    rw [List.forall_mem_cons] at h
    have hm : c ≠ 'm' := by
      rintro rfl
      exact absurd h.1 (by decide)
    have hfeed : feed ⟨.sequence read, s⟩ c = (⟨.sequence (c :: read), s⟩, []) := by
      simp only [feed, if_neg hm, h.1, if_true]
    rw [feedAll_cons, hfeed, ih h.2]
    simp

/-- A sequence shows nothing, and selects what its numbers ask for. -/
theorem feedAll_sgr {parameters : Text} (h : ∀ c ∈ parameters, Text.isSgrParameter c = true)
    (s : Style) :
    feedAll ⟨.text, s⟩ (sgr parameters) = (⟨.text, select (numbers parameters) s⟩, []) := by
  have hopen : feedAll ⟨.text, s⟩ ['\x1b', '['] = (⟨.sequence [], s⟩, []) := rfl
  have hclose : feedAll ⟨.sequence parameters.reverse, s⟩ ['m'] =
      (⟨.text, select (numbers parameters) s⟩, []) := by
    simp [feedAll, feed]
  have hsgr : sgr parameters = ['\x1b', '['] ++ (parameters ++ ['m']) := rfl
  rw [hsgr, feedAll_append, hopen, feedAll_append, feedAll_parameters h, List.append_nil, hclose]
  rfl

theorem feedAll_sequences {sequences : List Text}
    (h : ∀ p ∈ sequences, ∀ c ∈ p, Text.isSgrParameter c = true) (s : Style) :
    feedAll ⟨.text, s⟩ (sequences.map sgr).flatten =
      (⟨.text, sequences.foldl (fun s p => select (numbers p) s) s⟩, []) := by
  induction sequences generalizing s with
  | nil => rfl
  | cons p sequences ih =>
    rw [List.forall_mem_cons] at h
    rw [List.map_cons, List.flatten_cons, feedAll_append, feedAll_sgr h.1, ih h.2]
    rfl

/-! ## Numbers of a style -/

theorem numbers_ofNat (n : Nat) : numbers (Text.ofNat n) = [n] := by
  have hsemicolon : ';' ∉ Text.ofNat n := by
    intro h
    have hdigit : (';' : Char).isDigit = true :=
      Nat.isDigit_of_mem_toDigits (by decide) (by decide) h
    exact absurd hdigit (by decide)
  rw [numbers, List.splitOn_eq_singleton hsemicolon, List.map_singleton, Text.ofNat,
    Nat.ofDigitChars_ten_toDigits]

theorem numbers_append_cons (p q : Text) : numbers (p ++ ';' :: q) = numbers p ++ numbers q := by
  rw [numbers, List.splitOn_append_cons_self, List.map_append]
  rfl

theorem numbers_palette (decade : Nat) (i : Fin 256) :
    numbers ((Color.palette i).parameters decade) = [10 * decade + 8, 5, i.val] := by
  have hfive : numbers ['5'] = [5] := numbers_ofNat 5
  rw [Color.parameters, Text.join_cons_cons, Text.join_cons_cons, Text.join_singleton,
    numbers_append_cons, numbers_append_cons, numbers_ofNat, numbers_ofNat, hfive]
  rfl

theorem select_foreground (c : Color) (s : Style) :
    select (numbers (c.parameters 3)) s = s.withForeground c := by
  cases c with
  | base c => rw [Color.parameters, numbers_ofNat]; cases c <;> rfl
  | palette i =>
    have hcolor : paletteColor? i.val = some (.palette i) := dif_pos i.isLt
    rw [numbers_palette, select, select, hcolor]
    rfl

theorem select_background (c : Color) (s : Style) :
    select (numbers (c.parameters 4)) s = s.withBackground c := by
  cases c with
  | base c => rw [Color.parameters, numbers_ofNat]; cases c <;> rfl
  | palette i =>
    have hcolor : paletteColor? i.val = some (.palette i) := dif_pos i.isLt
    rw [numbers_palette, select, select, hcolor]
    rfl

theorem select_attribute (a : Attribute) (s : Style) :
    select (numbers (Text.ofNat a.parameter)) s = s.withAttribute a := by
  rw [numbers_ofNat]
  cases a <;> rfl

/-- Attributes are added one after another. -/
theorem foldl_attributes (as : List Attribute) (s : Style) :
    (as.map fun a => Text.ofNat a.parameter).foldl (fun s p => select (numbers p) s) s =
      { s with attributes := fun a => s.attributes a || decide (a ∈ as) } := by
  induction as generalizing s with
  | nil => simp
  | cons b as ih =>
    rw [List.map_cons, List.foldl_cons, select_attribute, ih]
    refine congrArg (Style.mk s.foreground s.background) (funext fun a => ?_)
    rw [Bool.eq_iff_iff]
    simp [Style.withAttribute, Attributes.union, Attributes.only, or_assoc, @eq_comm _ a b]

/-- The sequences of a style select this style on a screen that had none. -/
theorem foldl_parameters (s : Style) :
    s.parameters.foldl (fun s p => select (numbers p) s) .default = s := by
  obtain ⟨foreground, background, attributes⟩ := s
  have hforeground : ((foreground.map (Color.parameters 3)).toList).foldl
      (fun s p => select (numbers p) s) .default = ⟨foreground, none, .none⟩ := by
    cases foreground with
    | none => rfl
    | some c => exact select_foreground c .default
  have hbackground : ((background.map (Color.parameters 4)).toList).foldl
      (fun s p => select (numbers p) s) ⟨foreground, none, .none⟩ =
        ⟨foreground, background, .none⟩ := by
    cases background with
    | none => rfl
    | some c => exact select_background c _
  have hattributes : (fun a => Attributes.none a || decide (a ∈ Attribute.all.filter attributes)) =
      attributes := by
    funext a
    have hmem : a ∈ Attribute.all.filter attributes ↔ attributes a = true :=
      List.mem_filter.trans (and_iff_right a.mem_all)
    simp [Attributes.none, hmem]
  rw [Style.parameters, List.foldl_append, List.foldl_append, hforeground, hbackground,
    foldl_attributes]
  exact congrArg (Style.mk foreground background) hattributes

/-! ## Painted text -/

/-- A screen shows painted text in its style, and does not keep the style. -/
theorem feedAll_paint {t : Text} (h : '\x1b' ∉ t) (s : Style) :
    feedAll {} (s.paint t) = ({}, t.map (⟨·, s⟩)) := by
  have hselect := foldl_parameters s
  have hreset : ∀ c ∈ ['0'], Text.isSgrParameter c = true := List.forall_mem_singleton.mpr rfl
  unfold Style.paint
  split
  · next hnone =>
    -- Without sequences the style is the default one.
    rw [hnone, List.foldl_nil] at hselect
    rw [← hselect]
    exact feedAll_text h .default
  · have hopen : feedAll {} (s.parameters.map sgr).flatten = (⟨.text, s⟩, []) := by
      rw [feedAll_sequences (fun p hp => Style.isSgrParameter_of_mem hp), hselect]
    rw [feedAll_append, feedAll_append, hopen, feedAll_text h, feedAll_sgr hreset]
    simp only [List.nil_append, List.append_nil]
    rfl

end Screen

/-- The cells of a run: its characters, each in the style of the run. -/
def Run.cells (r : Run) : List Cell := r.text.map (⟨·, r.style⟩)

namespace StyledText

theorem feedAll_render {rs : List Run} (h : ∀ r ∈ rs, '\x1b' ∉ r.text) :
    Screen.feedAll {} (render true ⟨rs⟩) = ({}, rs.flatMap Run.cells) := by
  induction rs with
  | nil => rfl
  | cons r rs ih =>
    rw [List.forall_mem_cons] at h
    have hrest : Screen.feedAll {} (rs.flatMap fun r => r.style.paint r.text) =
        ({}, rs.flatMap Run.cells) := ih h.2
    simp only [render, if_true, List.flatMap_cons]
    rw [Screen.feedAll_append, Screen.feedAll_paint h.1, hrest]
    rfl

/-- A screen in the default style shows the characters of a rendered text in their order, each in
    exactly the style of its run. It is back in the default style after every run. -/
theorem screen_shows_render {t : StyledText} (h : '\x1b' ∉ t.toText) :
    Screen.feedAll {} (t.render true) = ({}, t.runs.flatMap Run.cells) ∧
      (t.runs.flatMap Run.cells).map Cell.char = t.render false ∧
      ∀ before after, t.runs = before ++ after →
        t.render true = render true ⟨before⟩ ++ render true ⟨after⟩ ∧
          Screen.feedAll {} (render true ⟨before⟩) = ({}, before.flatMap Run.cells) := by
  have hruns : ∀ r ∈ t.runs, '\x1b' ∉ r.text :=
    fun r hr hc => h (List.mem_flatMap.mpr ⟨r, hr, hc⟩)
  refine ⟨feedAll_render hruns, ?_, ?_⟩
  · simp only [List.map_flatMap, Run.cells, List.map_map, Function.comp_def, List.map_id']
    rfl
  · intro before after heq
    refine ⟨?_, feedAll_render fun r hr => hruns r (heq ▸ List.mem_append_left after hr)⟩
    simp only [render, if_true, heq, List.flatMap_append]

/-- A bare run between two styled ones, the styles of which have nothing in common. -/
theorem screen_shows_bare_between :
    let loud := (Style.default.withForeground (.palette 208)).withAttribute .bold
    let shaded := (Style.default.withBackground (.base .red)).withAttribute .reverse
    let t : StyledText :=
      ⟨[⟨['a'], ['u'], loud⟩, ⟨['b', 'c'], [], .default⟩, ⟨['d'], ['v'], shaded⟩]⟩
    '\x1b' ∉ t.toText ∧
      t.render true = "\x1b[38;5;208m\x1b[1ma\x1b[0mbc\x1b[41m\x1b[7md\x1b[0m".toList ∧
      Screen.feedAll {} (t.render true) =
        ({}, [⟨'a', loud⟩, ⟨'b', .default⟩, ⟨'c', .default⟩, ⟨'d', shaded⟩]) :=
  ⟨by decide, by decide, (screen_shows_render (by decide)).1⟩

end StyledText

end LogLine
