-- SUMMARY: Rendering an event as a line.
import LogLine.Config.Settings
import LogLine.Layout.Cache
import LogLine.Render.Formatter
import LogLine.Render.Json
import LogLine.Render.Thread
import LogLine.Render.Trailer

/-!
# Rendering

A renderer turns events into lines by its settings. A line for a terminal has
a column for every field of the layout and fills the terminal's width; a JSON
line has a member for every field, for the pattern and for each argument.

What outlives a line is kept apart from the renderer: the plan made last, the
numbers of the threads, and the guards that keep a thread from rendering while
it renders.
-/

namespace LogLine

/-- A renderer of events. -/
structure Renderer where
  settings : Settings
  formatter : Formatter := .braces
  hyphen : SoftHyphen := .latin1

/-- Where and when an event is rendered. -/
structure Scene where
  terminal : Terminal
  clock : Reading
  thread : Thread

/-- What outlives a line. -/
structure RenderState where
  cache : PlanCache := {}
  numbers : ThreadNumbers := {}
  guards : Guards := {}
  /-- Everything that was reported. -/
  journal : List Diagnostic := []

/-- What became of a rendering. -/
inductive Outcome where
  | line (line : Line)
  /-- The thread was rendering already. -/
  | refused
  /-- The formatter broke off. -/
  | unwound
deriving DecidableEq, Repr

def Outcome.line? : Outcome → Option Line
  | .line l => some l
  | _ => none

/-- Asking for an event to be rendered: what became of it, and what outlives it. -/
abbrev Rendering := Event → RenderState → Outcome × RenderState

/-- Lets a formatter run on a thread. `again` is what it asks for with another event; a rendering
    inside it that breaks off takes the formatter along. -/
def Formatting.run (again : Rendering) (t : Thread) :
    Formatting → RenderState → Option Text × RenderState
  | .done markup, s => (some markup, s)
  | .fail, s => (none, s)
  | .render e next, s =>
    match again e s with
    | (.line l, s) => (next (some l)).run again t s
    | (.refused, s) => (next none).run again t s
    | (.unwound, s) => (none, s)
  | .look next, s => (next (s.guards.isActive t)).run again t s

/-- A formatter whose thread is rendering, and whose events are refused for that reason, changes
    nothing. -/
theorem Formatting.run_eq_whileRendering {again : Rendering} {t : Thread} {s : RenderState}
    (active : s.guards.isActive t = true) (refused : ∀ e, again e s = (.refused, s))
    (f : Formatting) : f.run again t s = (f.whileRendering, s) := by
  induction f with
  | done markup => rfl
  | fail => rfl
  | render e next ih =>
    rw [run, refused]
    exact ih none
  | look next ih =>
    rw [run, active]
    exact ih true

namespace Renderer

/-! ## Values -/

/-- The plain value of a field, or `none` if the formatter breaks off. A thread asks for its number
    where a field shows it. -/
def plainValue (r : Renderer) (again : Rendering) (scene : Scene) (e : Event) (kind : FieldKind)
    (s : RenderState) : Option Text × RenderState :=
  match kind with
  | .dateTime => (some (r.settings.date.text scene.clock), s)
  | .threadName => (some scene.thread.shownName, s)
  | .threadId =>
    (some (Text.ofNat (s.numbers.number scene.thread)),
      { s with numbers := s.numbers.ask scene.thread })
  | .level => (some e.level.name, s)
  | .shortName => (some e.shortName, s)
  | .name => (some e.logger, s)
  | .message =>
    let (markup, s) := (r.formatter e.pattern e.args none).run again scene.thread s
    (markup.map fun markup => (Markup.evaluate markup).toText, s)
  | .markers => (some (Text.join [','] e.markers), s)
  | .custom => (some [], s)

/-- The value of a field as markup, or `none` if the formatter breaks off. -/
def markupValue (r : Renderer) (again : Rendering) (scene : Scene) (e : Event) (kind : FieldKind)
    (s : RenderState) : Option Text × RenderState :=
  match kind with
  | .level => (some (r.settings.levels e.level).text, s)
  | .message =>
    (r.formatter e.pattern e.args r.settings.parameterStyle).run again scene.thread s
  | kind =>
    let (value, s) := r.plainValue again scene e kind s
    (value.map Markup.escape, s)

/-- The values of fields in turn, up to one that the formatter breaks off at. -/
def values (value : FieldKind → RenderState → Option Text × RenderState) :
    List Field → RenderState → Option (List Text) × RenderState
  | [], s => (some [], s)
  | f :: fields, s =>
    match value f.kind s with
    | (none, s) => (none, s)
    | (some v, s) =>
      let (rest, s) := values value fields s
      (rest.map (v :: ·), s)

/-! ## Terminal lines -/

/-- The width that a line is laid out for. -/
def width (r : Renderer) (t : Terminal) : Nat :=
  t.effectiveWidth r.settings.width r.settings.fallbackWidth

/-- The template of the event's level that a field is put into, if there is one. -/
def levelTemplate (r : Renderer) (e : Event) (f : Field) : Option Text :=
  if f.kind = .level ∨ r.settings.styleAsLevel then some (r.settings.levels e.level).style
  else none

/-- Adds the columns of fields with their values to a line. -/
def columns (r : Renderer) (plan : Plan) (e : Event) :
    (first : Bool) → List (Field × Text) → StyledText → StyledText
  | _, [], line => line
  | first, (f, value) :: rest, line =>
    let line := f.render (r.settings.expression r.hyphen) r.settings.gap value
      ((plan.get? f.name).getD 1) (r.levelTemplate e f) first line
    columns r plan e false rest line

/-- The line for a terminal with the given values of the layout's fields. -/
def ttyLine (r : Renderer) (plan : Plan) (ansi : Bool) (e : Event) (values : List Text) : Line :=
  { text := (r.columns plan e true (r.settings.layout.zip values) {}).render ansi
    trailer :=
      match e.errors with
      | [] => none
      | error :: causes => some (LogLine.trailer ansi error causes) }

/-! ## JSON lines -/

def argKey (i : Nat) : Text := "arg".toList ++ Text.ofNat i

/-- The members of the object with the given values of the layout's fields. -/
def members (r : Renderer) (e : Event) (values : List Text) : List (Text × Text) :=
  (r.settings.layout.map Field.name).zip values ++
    ("pattern".toList, e.pattern) :: e.args.zipIdx.map fun (arg, i) => (argKey i, arg)

def jsonLine (r : Renderer) (e : Event) (values : List Text) : Line :=
  { text := Json.object (r.members e values) }

/-! ## Rendering -/

/-- The plan for a terminal, kept or new, and what outlives asking for it. -/
def planFor (r : Renderer) (t : Terminal) (s : RenderState) : Plan × RenderState :=
  let layout := r.settings.layout
  let width := r.width t
  let gap := r.settings.gap
  (s.cache.get layout width gap,
    { s with
      cache := s.cache.visit layout width gap
      journal := s.journal ++ s.cache.journal layout width gap })

/-- Renders an event on a thread whose guard is held. -/
def renderGuarded (r : Renderer) (again : Rendering) (scene : Scene) : Rendering := fun e s =>
  match r.settings.format with
  | .tty =>
    let (plan, s) := r.planFor scene.terminal s
    let (found, s) := values (r.markupValue again scene e) r.settings.layout s
    let ansi := r.settings.mode.usesAnsi scene.terminal
    (found.elim .unwound fun values => .line (r.ttyLine plan ansi e values), s)
  | .json =>
    let (found, s) := values (r.plainValue again scene e) r.settings.layout s
    (found.elim .unwound fun values => .line (r.jsonLine e values), s)

/-- Renders an event, unless the thread is rendering already. The guard is dropped in any case.
    `depth` bounds how far renderings inside renderings are followed. -/
def renderWithin (r : Renderer) (scene : Scene) : (depth : Nat) → Rendering
  | 0, _, s => (.refused, s)
  | depth + 1, e, s =>
    match s.guards.enter scene.thread with
    | (false, guards) => (.refused, { s with guards })
    | (true, guards) =>
      let (outcome, s) := r.renderGuarded (r.renderWithin scene depth) scene e { s with guards }
      (outcome, { s with guards := s.guards.leave scene.thread })

/-- A thread that is rendering is refused, and nothing changes. -/
theorem renderWithin_of_isActive {r : Renderer} {scene : Scene} {s : RenderState}
    (h : s.guards.isActive scene.thread = true) (depth : Nat) (e : Event) :
    r.renderWithin scene depth e s = (.refused, s) := by
  cases depth with
  | zero => rfl
  | succ depth => rw [renderWithin, Guards.enter_of_isActive h]

/-- Renders an event, unless the thread is rendering already. A rendering inside this one is
    refused by the guard, so two levels are all there can be. -/
def render (r : Renderer) (scene : Scene) : Rendering := r.renderWithin scene 2

end Renderer

end LogLine
