-- SUMMARY: Reading markup in parts, and the pens that a reader can hold.
import LogLine.Proofs.Markup.Glyphs

/-!
# Reading in parts

A reader takes markup from left to right, so markup can be read in parts. Some
markup leaves a reader that stands between characters of text exactly as it was:
escaped text does, a scope around such markup does, and so does one such markup
after another. What it shows then depends on the pen around it only.

Whatever markup was read before, the pens of a reader have specs that can be
written back as the name of a scope, and styles that their specs decide on.
-/

namespace LogLine

/-! ## Names and pens -/

/-- The style that a resolver gives to a spec. Text outside every scope is not resolved. -/
def Resolver.styleAt (resolver : Resolver) (spec : Text) : Style :=
  if spec = [] then .default else resolver spec

theorem Resolver.styleAt_of_ne_nil (resolver : Resolver) {spec : Text} (h : spec ≠ []) :
    resolver.styleAt spec = resolver spec := if_neg h

/-- A text that opens a scope when it is written as its name. -/
structure Markup.IsName (name : Text) : Prop where
  ne_nil : name ≠ []
  no_space : ' ' ∉ name
  no_brace : '\x7d' ∉ name

instance : DecidablePred Markup.IsName := fun name =>
  decidable_of_iff (name ≠ [] ∧ ' ' ∉ name ∧ '\x7d' ∉ name)
    ⟨fun h => ⟨h.1, h.2.1, h.2.2⟩, fun h => ⟨h.ne_nil, h.no_space, h.no_brace⟩⟩

namespace Pen

/-- The pen inside scopes, given their names from the outermost to the innermost. -/
def within (resolver : Resolver) (names : List Text) : Pen :=
  ⟨Text.join [','] names, resolver.styleAt (Text.join [','] names)⟩

/-- The spec of a pen can be the name of a scope unless it is empty, and decides on the style. -/
structure Valid (resolver : Resolver) (p : Pen) : Prop where
  style_eq : p.style = resolver.styleAt p.spec
  no_space : ' ' ∉ p.spec
  no_brace : '\x7d' ∉ p.spec

theorem valid_default (resolver : Resolver) : Pen.default.Valid resolver :=
  ⟨rfl, List.not_mem_nil, List.not_mem_nil⟩

theorem Valid.isName {resolver : Resolver} {p : Pen} (h : p.Valid resolver) (hne : p.spec ≠ []) :
    Markup.IsName p.spec := ⟨hne, h.no_space, h.no_brace⟩

theorem spec_inside_ne_nil {name : Text} (hname : name ≠ []) (resolver : Resolver) (p : Pen) :
    (p.inside resolver name).spec ≠ [] := by
  simp only [inside]
  split <;> simp [hname]

theorem Valid.inside {resolver : Resolver} {p : Pen} {name : Text} (h : p.Valid resolver)
    (hname : Markup.IsName name) : (p.inside resolver name).Valid resolver := by
  refine ⟨(resolver.styleAt_of_ne_nil (spec_inside_ne_nil hname.ne_nil resolver p)).symm, ?_, ?_⟩
  · simp only [Pen.inside]
    split <;> simp [hname.no_space, h.no_space]
  · simp only [Pen.inside]
    split <;> simp [hname.no_brace, h.no_brace]

theorem within_nil (resolver : Resolver) : within resolver [] = .default := rfl

end Pen

theorem Text.join_concat_of_ne_nil {names : List Text} (h : names ≠ []) (sep name : Text) :
    Text.join sep (names ++ [name]) = Text.join sep names ++ sep ++ name := by
  induction names with
  | nil => exact absurd rfl h
  | cons a names ih =>
    cases names with
    | nil => simp [Text.join, List.intercalate]
    | cons b names =>
      have := ih (List.cons_ne_nil b names)
      simp only [Text.join, List.cons_append, List.intercalate_cons_cons] at this ⊢
      rw [this]
      simp

theorem Text.join_ne_nil {names : List Text} (h : names ≠ []) (hne : ∀ n ∈ names, n ≠ [])
    (sep : Text) : Text.join sep names ≠ [] := by
  cases names with
  | nil => exact absurd rfl h
  | cons a names =>
    have ha := hne a List.mem_cons_self
    cases names with
    | nil => simpa [Text.join, List.intercalate] using ha
    | cons b names => simp [Text.join, List.intercalate_cons_cons, ha]

/-- A further scope adds its name to those of the scopes around it. -/
theorem Pen.inside_within {resolver : Resolver} {names : List Text} {name : Text}
    (hnames : ∀ n ∈ names, n ≠ []) (hname : name ≠ []) :
    (Pen.within resolver names).inside resolver name = .within resolver (names ++ [name]) := by
  have hspec : ((Pen.within resolver names).inside resolver name).spec =
      Text.join [','] (names ++ [name]) := by
    by_cases h : names = []
    · simp [h, Pen.inside, Pen.within, Text.join, List.intercalate]
    · simp [Pen.inside, Pen.within, Text.join_ne_nil h hnames, Text.join_concat_of_ne_nil h]
  have hstyle : ((Pen.within resolver names).inside resolver name).style =
      resolver.styleAt ((Pen.within resolver names).inside resolver name).spec :=
    (resolver.styleAt_of_ne_nil (spec_inside_ne_nil hname resolver _)).symm
  rw [hspec] at hstyle
  exact congrArg₂ Pen.mk hspec hstyle

theorem Pen.valid_within {resolver : Resolver} {names : List Text}
    (hnames : ∀ n ∈ names, Markup.IsName n) : (Pen.within resolver names).Valid resolver := by
  induction names using List.reverseRecOn with
  | nil => exact valid_default resolver
  | append_singleton names n ih =>
    rw [List.forall_mem_append] at hnames
    have hne : ∀ n ∈ names, n ≠ [] := fun n hn => (hnames.1 n hn).ne_nil
    have hn : Markup.IsName n := hnames.2 n List.mem_cons_self
    rw [← inside_within hne hn.ne_nil]
    exact (ih hnames.1).inside hn

/-! ## Feeding a reader -/

namespace Markup

namespace Reader

variable {resolver : Resolver}

@[simp] theorem feedAll_nil (r : Reader) : feedAll resolver r [] = (r, []) := rfl

theorem feedAll_cons (r : Reader) (c : Char) (t : Text) :
    feedAll resolver r (c :: t) =
      ((feedAll resolver (r.feed resolver c).1 t).1,
        (r.feed resolver c).2 ++ (feedAll resolver (r.feed resolver c).1 t).2) := rfl

/-- Markup can be read in parts. -/
theorem feedAll_append (r : Reader) (s t : Text) :
    feedAll resolver r (s ++ t) =
      ((feedAll resolver (feedAll resolver r s).1 t).1,
        (feedAll resolver r s).2 ++ (feedAll resolver (feedAll resolver r s).1 t).2) := by
  induction s generalizing r with
  | nil => rfl
  | cons c s ih => simp only [List.cons_append, feedAll_cons, ih, List.append_assoc]

theorem feedText_of_ne {c : Char} (hslash : c ≠ '\\') (hat : c ≠ '@') (hbrace : c ≠ '\x7d')
    (r : Reader) : r.feedText c = ({ r with mode := .text }, [r.glyph c]) := by
  unfold feedText
  split <;> simp_all

theorem feedText_of_not_special {c : Char} (h : isSpecial c = false) (r : Reader) :
    r.feedText c = ({ r with mode := .text }, [r.glyph c]) := by
  simp only [isSpecial, Bool.or_eq_false_iff, beq_eq_false_iff_ne] at h
  obtain ⟨⟨⟨hslash, hat⟩, _⟩, hbrace⟩ := h
  exact feedText_of_ne hslash hat hbrace r

/-- An escaped character is literal, and leaves the reader where it was. -/
theorem feedAll_escape_char {r : Reader} (h : r.mode = .text) (c : Char) :
    feedAll resolver r (escape [c]) = (r, [r.glyph c]) := by
  obtain ⟨mode, pens⟩ := r
  subst h
  cases hc : isSpecial c with
  | false =>
    simp only [escape, List.flatMap_cons, hc, Bool.false_eq_true, if_false, List.flatMap_nil,
      List.append_nil, feedAll_cons, feedAll_nil, feed, feedText_of_not_special hc]
  | true =>
    simp only [escape, List.flatMap_cons, hc, if_true, List.flatMap_nil, List.append_nil,
      feedAll_cons, feedAll_nil, feed, feedText, List.nil_append]
    rfl

theorem feedName_of_ne {c : Char} (hspace : c ≠ ' ') (hbrace : c ≠ '\x7d') (r : Reader)
    (read : Text) : r.feedName resolver read c = { r with mode := .name (c :: read) } := by
  unfold feedName
  split <;> simp_all

/-- The characters of a name are collected. -/
theorem feedAll_name {t : Text} (hspace : ' ' ∉ t) (hbrace : '\x7d' ∉ t) (read : Text)
    (pens : List Pen) :
    feedAll resolver ⟨.name read, pens⟩ t = (⟨.name (t.reverse ++ read), pens⟩, []) := by
  induction t generalizing read with
  | nil => rfl
  | cons c t ih =>
    simp only [List.mem_cons, not_or] at hspace hbrace
    simp only [feedAll_cons, feed, feedName_of_ne (Ne.symm hspace.1) (Ne.symm hbrace.1),
      ih hspace.2 hbrace.2]
    simp

/-- An at sign, a brace, a name and a space open a scope. -/
theorem feedAll_open {r : Reader} (h : r.mode = .text) {name : Text} (hname : IsName name) :
    feedAll resolver r ('@' :: '\x7b' :: name ++ [' ']) =
      (⟨.text, r.pen.inside resolver name :: r.pens⟩, []) := by
  obtain ⟨mode, pens⟩ := r
  subst h
  obtain ⟨c, read, hread⟩ := List.exists_cons_of_ne_nil (List.reverse_ne_nil_iff.mpr hname.ne_nil)
  have hback : (c :: read).reverse = name := by rw [← hread, List.reverse_reverse]
  simp only [List.cons_append, feedAll_cons, feed, feedText, if_true, feedAll_append,
    feedAll_name hname.no_space hname.no_brace, List.append_nil, hread, feedName, hback,
    feedAll_nil]
  rfl

/-- A brace closes the innermost scope. -/
theorem feedAll_close (p : Pen) (pens : List Pen) :
    feedAll resolver ⟨.text, p :: pens⟩ ['\x7d'] = (⟨.text, pens⟩, []) := rfl

end Reader

/-! ## Markup that leaves the reader as it was -/

/-- A reader between characters of text stands where it stood when it has read the markup, and
    what was shown depends on its pen only. -/
def Reads (resolver : Resolver) (markup : Text) (shown : Pen → List Glyph) : Prop :=
  ∀ r : Reader, r.mode = .text → Reader.feedAll resolver r markup = (r, shown r.pen)

namespace Reads

variable {resolver : Resolver}

theorem nil : Reads resolver [] fun _ => [] := fun _ _ => rfl

theorem append {m n : Text} {f g : Pen → List Glyph} (hm : Reads resolver m f)
    (hn : Reads resolver n g) : Reads resolver (m ++ n) fun p => f p ++ g p := by
  intro r hr
  rw [Reader.feedAll_append, hm r hr, hn r hr]

theorem escape (t : Text) : Reads resolver (Markup.escape t) fun p => p.write t := by
  induction t with
  | nil => exact nil
  | cons c t ih =>
    have hchar : Reads resolver (Markup.escape [c]) fun p => p.write [c] :=
      fun _ hr => Reader.feedAll_escape_char hr c
    have hcons : Markup.escape (c :: t) = Markup.escape [c] ++ Markup.escape t := by
      simp [Markup.escape]
    rw [hcons]
    exact hchar.append ih

/-- A scope shows its body with the pen inside it. -/
theorem scope {name body : Text} {f : Pen → List Glyph} (hname : IsName name)
    (hbody : Reads resolver body f) :
    Reads resolver (scope name body) fun p => f (p.inside resolver name) := by
  intro r hr
  have hparts : Markup.scope name body = ('@' :: '\x7b' :: name ++ [' ']) ++ body ++ ['\x7d'] := by
    simp [Markup.scope]
  have hopen : Reader.feedAll resolver r ('@' :: '\x7b' :: name ++ [' ']) =
      (⟨.text, r.pen.inside resolver name :: r.pens⟩, []) := Reader.feedAll_open hr hname
  have hback : (⟨.text, r.pens⟩ : Reader) = r := by rw [← hr]
  rw [hparts, Reader.feedAll_append, Reader.feedAll_append, hopen, hbody _ rfl,
    Reader.feedAll_close, hback]
  simp [Reader.pen]

end Reads

/-- Markup that shows a text wherever it stands between characters of text, and leaves the reader
    as it was. -/
def Shows (resolver : Resolver) (markup t : Text) : Prop :=
  ∃ shown, Reads resolver markup shown ∧ ∀ p, (shown p).map Glyph.char = t

namespace Shows

variable {resolver : Resolver}

theorem nil : Shows resolver [] [] := ⟨_, Reads.nil, fun _ => rfl⟩

theorem escape (t : Text) : Shows resolver (Markup.escape t) t :=
  ⟨_, Reads.escape t, fun p => p.map_char_write t⟩

/-- Without characters that mean something, a text is its own markup. -/
theorem of_not_special {t : Text} (h : ∀ c ∈ t, isSpecial c = false) : Shows resolver t t := by
  have hescape : Markup.escape t = t :=
    calc Markup.escape t
      _ = t.flatMap fun c => [c] := List.flatMap_congr fun c hc => by rw [h c hc]; rfl
      _ = t := List.flatMap_singleton' t
  have hshows := @escape resolver t
  rwa [hescape] at hshows

theorem append {m n t u : Text} (hm : Shows resolver m t) (hn : Shows resolver n u) :
    Shows resolver (m ++ n) (t ++ u) := by
  obtain ⟨f, hf, hft⟩ := hm
  obtain ⟨g, hg, hgu⟩ := hn
  exact ⟨_, hf.append hg, fun p => by rw [List.map_append, hft, hgu]⟩

theorem scope {name body t : Text} (hname : IsName name) (hbody : Shows resolver body t) :
    Shows resolver (scope name body) t := by
  obtain ⟨f, hf, hft⟩ := hbody
  exact ⟨_, hf.scope hname, fun p => hft (p.inside resolver name)⟩

end Shows

/-- What a reader shows from where it stands to the end of the markup. -/
def Reader.glyphsFrom (resolver : Resolver) (r : Reader) (m : Text) : List Glyph :=
  (feedAll resolver r m).2 ++ (feedAll resolver r m).1.finish

theorem Reader.glyphsFrom_append {resolver : Resolver} (r : Reader) (m n : Text) :
    r.glyphsFrom resolver (m ++ n) =
      (feedAll resolver r m).2 ++ (feedAll resolver r m).1.glyphsFrom resolver n := by
  simp only [glyphsFrom, feedAll_append, List.append_assoc]

theorem glyphs_eq_glyphsFrom (resolver : Resolver) (m : Text) :
    glyphs resolver m = Reader.glyphsFrom resolver {} m := rfl

/-- Markup that leaves the reader as it was can stand wherever a reader is between characters of
    text: what is shown before and after it stays. -/
theorem Reads.glyphs_between {resolver : Resolver} {m : Text} {f : Pen → List Glyph}
    (h : Reads resolver m f) {before : Text}
    (htext : (Reader.feedAll resolver {} before).1.mode = .text) (after : Text) :
    glyphs resolver (before ++ m ++ after) =
      (Reader.feedAll resolver {} before).2 ++ f (Reader.feedAll resolver {} before).1.pen ++
        (Reader.feedAll resolver {} before).1.glyphsFrom resolver after := by
  rw [glyphs_eq_glyphsFrom, List.append_assoc, Reader.glyphsFrom_append, Reader.glyphsFrom_append,
    h _ htext, List.append_assoc]

/-- What markup shows that leaves the reader as it was. -/
theorem Reads.glyphs_eq {resolver : Resolver} {m : Text} {f : Pen → List Glyph}
    (h : Reads resolver m f) : glyphs resolver m = f .default := by
  simp only [glyphs, h {} rfl]
  simp [Reader.finish, Reader.pen]

theorem Shows.map_char_glyphs {resolver : Resolver} {m t : Text} (h : Shows resolver m t) :
    (glyphs resolver m).map Glyph.char = t := by
  obtain ⟨f, hf, hft⟩ := h
  rw [hf.glyphs_eq, hft]

/-! ## What reading keeps -/

/-- Properties of pens and of the names of scopes that hold from the start and are kept by reading
    characters with a property. A name is taken from its last character. -/
structure Kept (resolver : Resolver) (char : Char → Prop) (name : Text → Prop) (pen : Pen → Prop) :
    Prop where
  slash : char '\\'
  at_sign : char '@'
  start : pen .default
  name_nil : name []
  name_cons : ∀ {read c}, name read → char c → c ≠ ' ' → c ≠ '\x7d' → name (c :: read)
  inside : ∀ {read p}, name read → read ≠ [] → pen p → pen (p.inside resolver read.reverse)

/-- What is kept of a reader: properties of its pens and of the name that it is reading. -/
structure Reader.Keeps (name : Text → Prop) (pen : Pen → Prop) (r : Reader) : Prop where
  pens : ∀ p ∈ r.pens, pen p
  name : ∀ read, r.mode = .name read → name read

namespace Kept

variable {resolver : Resolver} {char : Char → Prop} {name : Text → Prop} {pen : Pen → Prop}
  {r : Reader} {c : Char}

theorem of_mem_glyph (h : Kept resolver char name pen) (hr : r.Keeps name pen) (hc : char c) :
    ∀ g ∈ [r.glyph c], char g.char ∧ pen g.pen := by
  intro g hg
  rw [List.mem_singleton.mp hg]
  refine ⟨hc, ?_⟩
  unfold Reader.glyph Reader.pen
  cases hpens : r.pens with
  | nil => exact h.start
  | cons p pens => exact hr.pens p (hpens ▸ List.mem_cons_self)

theorem feedText (h : Kept resolver char name pen) (hr : r.Keeps name pen) (hc : char c) :
    (r.feedText c).1.Keeps name pen ∧ ∀ g ∈ (r.feedText c).2, char g.char ∧ pen g.pen := by
  unfold Reader.feedText
  split
  · exact ⟨⟨hr.pens, nofun⟩, List.forall_mem_nil _⟩
  · exact ⟨⟨hr.pens, nofun⟩, List.forall_mem_nil _⟩
  · exact ⟨⟨fun p hp => hr.pens p (List.mem_of_mem_tail hp), nofun⟩, List.forall_mem_nil _⟩
  · exact ⟨⟨hr.pens, nofun⟩, h.of_mem_glyph hr hc⟩

theorem feedName (h : Kept resolver char name pen) (hr : r.Keeps name pen) {read : Text}
    (hread : name read) (hc : char c) : (r.feedName resolver read c).Keeps name pen := by
  have hpen : pen r.pen := (h.of_mem_glyph hr hc (r.glyph c) List.mem_cons_self).2
  unfold Reader.feedName
  split
  · exact hr
  · next hne =>
    refine ⟨fun p hp => ?_, nofun⟩
    rcases List.mem_cons.mp hp with rfl | hp
    · exact h.inside hread hne hpen
    · exact hr.pens p hp
  · exact ⟨hr.pens, nofun⟩
  · next hspace hbrace =>
    refine ⟨hr.pens, fun read' hread' => ?_⟩
    cases hread'
    exact h.name_cons hread hc (by grind) (by grind)

/-- A step keeps what is kept, also of the glyphs that it shows. -/
theorem feed (h : Kept resolver char name pen) (hr : r.Keeps name pen) (hc : char c) :
    (r.feed resolver c).1.Keeps name pen ∧
      ∀ g ∈ (r.feed resolver c).2, char g.char ∧ pen g.pen := by
  unfold Reader.feed
  split
  · exact h.feedText hr hc
  · exact ⟨⟨hr.pens, nofun⟩, h.of_mem_glyph hr hc⟩
  · split
    · refine ⟨⟨hr.pens, fun read hread => ?_⟩, List.forall_mem_nil _⟩
      cases hread
      exact h.name_nil
    · refine ⟨(h.feedText hr hc).1, List.forall_mem_cons.mpr ⟨?_, (h.feedText hr hc).2⟩⟩
      exact h.of_mem_glyph hr h.at_sign _ List.mem_cons_self
  · next read hmode => exact ⟨h.feedName hr (hr.name read hmode) hc, List.forall_mem_nil _⟩

theorem feedAll (h : Kept resolver char name pen) (hr : r.Keeps name pen) {t : Text}
    (ht : ∀ c ∈ t, char c) :
    (Reader.feedAll resolver r t).1.Keeps name pen ∧
      ∀ g ∈ (Reader.feedAll resolver r t).2, char g.char ∧ pen g.pen := by
  induction t generalizing r with
  | nil => exact ⟨hr, List.forall_mem_nil _⟩
  | cons c t ih =>
    rw [List.forall_mem_cons] at ht
    have hstep := h.feed hr ht.1
    have hrest := ih hstep.1 ht.2
    exact ⟨hrest.1, List.forall_mem_append.mpr ⟨hstep.2, hrest.2⟩⟩

theorem finish (h : Kept resolver char name pen) (hr : r.Keeps name pen) :
    ∀ g ∈ r.finish, char g.char ∧ pen g.pen := by
  unfold Reader.finish
  split
  · exact h.of_mem_glyph hr h.slash
  · exact h.of_mem_glyph hr h.at_sign
  · exact List.forall_mem_nil _

/-- The glyphs of a markup have what is kept when its characters are read. -/
theorem glyphs (h : Kept resolver char name pen) {m : Text} (hm : ∀ c ∈ m, char c) :
    ∀ g ∈ Markup.glyphs resolver m, char g.char ∧ pen g.pen := by
  have hall := h.feedAll (r := {}) ⟨List.forall_mem_nil _, nofun⟩ hm
  exact List.forall_mem_append.mpr ⟨hall.2, h.finish hall.1⟩

end Kept

/-- Pens are valid, and names have no character that ends a name, whatever characters are read. -/
theorem kept_valid (resolver : Resolver) :
    Kept resolver (fun _ => True) (fun read => ' ' ∉ read ∧ '\x7d' ∉ read)
      (Pen.Valid resolver) where
  slash := trivial
  at_sign := trivial
  start := Pen.valid_default resolver
  name_nil := ⟨List.not_mem_nil, List.not_mem_nil⟩
  name_cons := by
    intro read c hread _ hspace hbrace
    simp only [List.mem_cons, not_or]
    exact ⟨⟨Ne.symm hspace, hread.1⟩, Ne.symm hbrace, hread.2⟩
  inside := by
    intro read p hread hne hp
    exact hp.inside ⟨by simpa using hne, by simpa using hread.1, by simpa using hread.2⟩

/-- Whatever the markup is, its glyphs have valid pens. -/
theorem valid_of_mem_glyphs {resolver : Resolver} {m : Text} {g : Glyph}
    (h : g ∈ glyphs resolver m) : g.pen.Valid resolver :=
  ((kept_valid resolver).glyphs (fun _ _ => trivial) g h).2

end Markup

end LogLine
