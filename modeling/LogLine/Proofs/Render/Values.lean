-- SUMMARY: What the values of fields depend on, and what asking for them leaves behind.
import LogLine.Render.Line
import Mathlib.Data.List.Forall2

/-!
# Values of fields

A thread that is rendering is refused whatever its formatter asks for. The value
of a field then depends on the scene, the event and the thread's number only.
All that asking for it leaves behind is that the thread may have got its number,
and this number stays the same from then on.
-/

namespace LogLine

/-! ## Numbers -/

namespace ThreadNumbers

/-- Whether `n'` is what became of `n` when a thread may have asked for its number. -/
def Asked (n : ThreadNumbers) (t : Thread) (n' : ThreadNumbers) : Prop :=
  n' = n ∨ n' = n.ask t

variable {n n' : ThreadNumbers} {t : Thread}

theorem ask_ask (n : ThreadNumbers) (t : Thread) : (n.ask t).ask t = n.ask t := by
  have hmem : t.key ∈ (n.ask t).asked := by
    unfold ask
    split
    · assumption
    · exact List.mem_append_right _ List.mem_cons_self
  exact if_pos hmem

theorem Asked.refl (n : ThreadNumbers) (t : Thread) : n.Asked t n := Or.inl rfl

theorem Asked.ask (h : n.Asked t n') : n.Asked t (n'.ask t) := by
  rcases h with rfl | rfl
  · exact Or.inr rfl
  · exact Or.inr (ask_ask n t)

/-- Asking does not change the thread's number. -/
theorem Asked.number_eq (h : n.Asked t n') : n'.number t = n.number t := by
  rcases h with rfl | rfl
  · rfl
  · rw [number, number, ask_ask]

end ThreadNumbers

/-! ## Single values -/

/-- A rendering that refuses a thread that is rendering, and leaves everything as it is. -/
def Rendering.Refuses (again : Rendering) (t : Thread) : Prop :=
  ∀ e s, s.guards.isActive t = true → again e s = (.refused, s)

/-- What outlives a line, with nothing in it but numbers and a thread that is rendering. -/
def RenderState.during (n : ThreadNumbers) (t : Thread) : RenderState :=
  { numbers := n, guards := ({} : Guards).mark t true }

theorem RenderState.isActive_during (n : ThreadNumbers) (t : Thread) :
    (RenderState.during n t).guards.isActive t = true := by
  rw [during, Guards.isActive_mark, if_pos rfl]

/-- The state with the number of a thread asked for, if a field of the kind shows it. -/
def RenderState.asking (s : RenderState) (t : Thread) (kind : FieldKind) : RenderState :=
  { s with numbers := if kind = .threadId then s.numbers.ask t else s.numbers }

namespace Renderer

variable {r : Renderer} {again : Rendering} {scene : Scene} {e : Event} {s : RenderState}

/-- The value of a field as markup, on a thread that is rendering. -/
def markup? (r : Renderer) (scene : Scene) (e : Event) (n : ThreadNumbers) (kind : FieldKind) :
    Option Text :=
  (r.markupValue (fun _ s => (.refused, s)) scene e kind (.during n scene.thread)).1

/-- The plain value of a field, on a thread that is rendering. -/
def plain? (r : Renderer) (scene : Scene) (e : Event) (n : ThreadNumbers) (kind : FieldKind) :
    Option Text :=
  (r.plainValue (fun _ s => (.refused, s)) scene e kind (.during n scene.thread)).1

/-- On a thread that is rendering, a formatter does the same whatever outlives the line. -/
theorem run_eq (active : s.guards.isActive scene.thread = true)
    (refuses : again.Refuses scene.thread) (n : ThreadNumbers) (f : Formatting) :
    f.run again scene.thread s =
      ((f.run (fun _ s => (.refused, s)) scene.thread (.during n scene.thread)).1, s) := by
  rw [Formatting.run_eq_whileRendering active fun e => refuses e s active,
    Formatting.run_eq_whileRendering (RenderState.isActive_during n scene.thread) fun _ => rfl]

theorem plainValue_eq (active : s.guards.isActive scene.thread = true)
    (refuses : again.Refuses scene.thread) (kind : FieldKind) :
    r.plainValue again scene e kind s =
      (r.plain? scene e s.numbers kind, s.asking scene.thread kind) := by
  cases kind with
  | message =>
    simp only [plain?, plainValue, run_eq active refuses s.numbers]
    rfl
  | _ => rfl

theorem markupValue_eq (active : s.guards.isActive scene.thread = true)
    (refuses : again.Refuses scene.thread) (kind : FieldKind) :
    r.markupValue again scene e kind s =
      (r.markup? scene e s.numbers kind, s.asking scene.thread kind) := by
  cases kind with
  | level => rfl
  | message => exact run_eq active refuses s.numbers _
  | _ => rfl

theorem run_during (n n' : ThreadNumbers) (f : Formatting) :
    f.run (fun _ s => (.refused, s)) scene.thread (.during n scene.thread) =
      ((f.run (fun _ s => (.refused, s)) scene.thread (.during n' scene.thread)).1,
        .during n scene.thread) :=
  run_eq (RenderState.isActive_during n scene.thread) (fun _ _ _ => rfl) n' f

/-- Of the numbers of the threads, the values depend on the thread's own only. -/
theorem plain?_congr {n n' : ThreadNumbers} (h : n'.number scene.thread = n.number scene.thread)
    (kind : FieldKind) : r.plain? scene e n' kind = r.plain? scene e n kind := by
  cases kind with
  | threadId => simp only [plain?, plainValue, RenderState.during, h]
  | message =>
    simp only [plain?, plainValue, run_during n' n]
  | _ => rfl

theorem markup?_congr {n n' : ThreadNumbers} (h : n'.number scene.thread = n.number scene.thread)
    (kind : FieldKind) : r.markup? scene e n' kind = r.markup? scene e n kind := by
  cases kind with
  | threadId => simp only [markup?, markupValue, plainValue, RenderState.during, h]
  | message =>
    simp only [markup?, markupValue, run_during n' n]
  | _ => rfl

/-! ## Values of a layout -/

theorem forall₂_of_mapM {α β : Type} {f : α → Option β} {xs : List α} {ys : List β}
    (h : xs.mapM f = some ys) : List.Forall₂ (fun x y => f x = some y) xs ys := by
  induction xs generalizing ys with
  | nil =>
    cases h
    exact .nil
  | cons x xs ih =>
    simp only [List.mapM_cons, Option.bind_eq_bind, Option.bind_eq_some_iff, Option.pure_def,
      Option.some.injEq] at h
    obtain ⟨y, hy, ys, hys, rfl⟩ := h
    exact .cons hy (ih hys)

theorem exists_mapM {α β : Type} {f : α → Option β} {xs : List α} (h : ∀ x ∈ xs, f x ≠ none) :
    ∃ ys, xs.mapM f = some ys := by
  induction xs with
  | nil => exact ⟨[], rfl⟩
  | cons x xs ih =>
    obtain ⟨y, hy⟩ := Option.ne_none_iff_exists'.mp (h x List.mem_cons_self)
    obtain ⟨ys, hys⟩ := ih fun x hx => h x (List.mem_cons_of_mem _ hx)
    exact ⟨y :: ys, by simp [List.mapM_cons, hy, hys]⟩

theorem mapM_eq_some_map {α β : Type} {f : α → Option β} {g : α → β} (h : ∀ x, f x = some (g x))
    (xs : List α) : xs.mapM f = some (xs.map g) := by
  obtain rfl : f = fun x => some (g x) := funext h
  exact List.mapM_pure

/-- Values are found one by one, and nothing but the thread's number changes. -/
theorem values_eq {value : FieldKind → RenderState → Option Text × RenderState}
    {found : ThreadNumbers → FieldKind → Option Text} {t : Thread} {s : RenderState}
    (hvalue : ∀ n kind, s.numbers.Asked t n →
      value kind { s with numbers := n } =
        (found s.numbers kind, RenderState.asking { s with numbers := n } t kind))
    (fields : List Field) {n : ThreadNumbers} (hn : s.numbers.Asked t n) :
    ∃ n', s.numbers.Asked t n' ∧ values value fields { s with numbers := n } =
      (fields.mapM fun f => found s.numbers f.kind, { s with numbers := n' }) := by
  induction fields generalizing n with
  | nil => exact ⟨n, hn, rfl⟩
  | cons f fields ih =>
    -- What the field asks for does not change the thread's own number, so the fields after it
    -- have the values that they had at the start.
    have hasked :
        s.numbers.Asked t (RenderState.asking { s with numbers := n } t f.kind).numbers := by
      unfold RenderState.asking
      split
      · exact hn.ask
      · exact hn
    obtain ⟨n', hn', hrest⟩ := ih hasked
    simp only [values, hvalue n f.kind hn, List.mapM_cons]
    cases found s.numbers f.kind with
    | none => exact ⟨_, hasked, rfl⟩
    | some v =>
      refine ⟨n', hn', ?_⟩
      have hsame : RenderState.asking { s with numbers := n } t f.kind =
          { s with numbers := (RenderState.asking { s with numbers := n } t f.kind).numbers } := rfl
      simp only
      rw [hsame, hrest]
      cases fields.mapM fun f => found s.numbers f.kind <;> rfl

theorem values_markupValue (active : s.guards.isActive scene.thread = true)
    (refuses : again.Refuses scene.thread) (fields : List Field) :
    ∃ n, s.numbers.Asked scene.thread n ∧ values (r.markupValue again scene e) fields s =
      (fields.mapM fun f => r.markup? scene e s.numbers f.kind, { s with numbers := n }) := by
  refine values_eq (fun n kind hn => ?_) fields (.refl s.numbers scene.thread)
  rw [markupValue_eq (s := { s with numbers := n }) active refuses, markup?_congr hn.number_eq]

theorem values_plainValue (active : s.guards.isActive scene.thread = true)
    (refuses : again.Refuses scene.thread) (fields : List Field) :
    ∃ n, s.numbers.Asked scene.thread n ∧ values (r.plainValue again scene e) fields s =
      (fields.mapM fun f => r.plain? scene e s.numbers f.kind, { s with numbers := n }) := by
  refine values_eq (fun n kind hn => ?_) fields (.refl s.numbers scene.thread)
  rw [plainValue_eq (s := { s with numbers := n }) active refuses, plain?_congr hn.number_eq]

/-! ## Columns -/

/-- A field is put into the style of the event's level or into none. -/
theorem eq_style_of_mem_levelTemplate {r : Renderer} {f : Field} {template : Text}
    (h : template ∈ r.levelTemplate e f) : template = (r.settings.levels e.level).style := by
  unfold levelTemplate at h
  split at h
  · cases h
    rfl
  · cases h

/-- Of its renderer, a row of columns shows the expression, the gap and the templates only. -/
theorem columns_congr (r r' : Renderer)
    (hexpression : r'.settings.expression r'.hyphen = r.settings.expression r.hyphen)
    (hgap : r'.settings.gap = r.settings.gap)
    (hlevel : ∀ f, r'.levelTemplate e f = r.levelTemplate e f) (plan : Plan) (first : Bool)
    (columns : List (Field × Text)) (line : StyledText) :
    r'.columns plan e first columns line = r.columns plan e first columns line := by
  induction columns generalizing first line with
  | nil => rfl
  | cons column rest ih => simp only [Renderer.columns, hexpression, hgap, hlevel, ih]

theorem ttyLine_congr (r r' : Renderer)
    (hexpression : r'.settings.expression r'.hyphen = r.settings.expression r.hyphen)
    (hgap : r'.settings.gap = r.settings.gap)
    (hlevel : ∀ f, r'.levelTemplate e f = r.levelTemplate e f)
    (hlayout : r'.settings.layout = r.settings.layout) (plan : Plan) (ansi : Bool)
    (values : List Text) : r'.ttyLine plan ansi e values = r.ttyLine plan ansi e values := by
  simp only [ttyLine, hlayout, columns_congr r r' hexpression hgap hlevel]

end Renderer

end LogLine
