-- SUMMARY: A JSON line reads back as the event, whatever the settings say about looks.
import LogLine.Proofs.Json.Reading
import LogLine.Proofs.Render.Showing

/-!
# Reading JSON lines back

A JSON line is an object that reads as the texts of an event: those of the layout's fields in
their order, the pattern as it was given, and the arguments. The message in it is interpolated,
but nothing in it means anything in markup, and nothing is cut. What settings say about the
looks of lines does not show.
-/

namespace LogLine

/-! ## Texts of an event -/

namespace Scene

/-- The text that fields of a kind have for an event, on a thread with a number. -/
def fieldText (scene : Scene) (date : DateFormat) (number : Nat) (e : Event) : FieldKind → Text
  | .dateTime => date.text scene.clock
  | .threadName => scene.thread.shownName
  | .threadId => Text.ofNat number
  | .level => e.level.name
  | .shortName => e.shortName
  | .name => e.logger
  | .message => Message.text e.pattern e.args
  | .markers => Text.join [','] e.markers
  | .custom => []

/-- The members that a JSON line has for an event, where the fields have the given names. -/
def members (scene : Scene) (date : DateFormat) (number : Nat) (e : Event) (names : List Text) :
    List (Text × Text) :=
  names.map (fun name => (name, scene.fieldText date number e (.ofName name))) ++
    ("pattern".toList, e.pattern) :: e.args.zipIdx.map fun (arg, i) => (Renderer.argKey i, arg)

end Scene

/-- Settings that only differ in the looks of lines, or in which lines there are and where they
    go. -/
structure Settings.SameContents (a b : Settings) : Prop where
  format : a.format = b.format
  date : a.date = b.date
  names : a.layout.map Field.name = b.layout.map Field.name

namespace Renderer

variable {r : Renderer} {scene : Scene} {e : Event} {s : RenderState}

theorem plain?_eq (hformatter : r.formatter = .braces) (n : ThreadNumbers) (kind : FieldKind) :
    r.plain? scene e n kind =
      some (scene.fieldText r.settings.date (n.number scene.thread) e kind) := by
  cases kind with
  | message => exact plain?_message hformatter
  | _ => rfl

theorem members_eq {value : Field → Text} {date : DateFormat} {number : Nat}
    (hvalue : ∀ f : Field, value f = scene.fieldText date number e f.kind) :
    r.members e (r.settings.layout.map value) =
      scene.members date number e (r.settings.layout.map Field.name) := by
  rw [members, Scene.members, List.zip_map', List.map_map]
  simp only [hvalue]
  rfl

/-- A JSON line is the object of the event's texts. -/
theorem render_json (hformatter : r.formatter = .braces) (hformat : r.settings.format = .json)
    (hidle : s.guards.isActive scene.thread = false) :
    (r.render scene e s).1 = .line { text := Json.object (scene.members r.settings.date
      (s.numbers.number scene.thread) e (r.settings.layout.map Field.name)) } := by
  obtain ⟨_, -, hrender⟩ := render_of_not_isActive (r := r) hidle e
  obtain ⟨value, hvalue, hline⟩ := exists_outcome_json scene (ends_braces (e := e) hformatter)
    hformat (r.plan scene.terminal s) s.numbers
  have htexts (f : Field) : value f =
      scene.fieldText r.settings.date (s.numbers.number scene.thread) e f.kind :=
    Option.some.inj ((hvalue f).symm.trans (plain?_eq hformatter s.numbers f.kind))
  rw [hrender, hline, jsonLine, members_eq htexts]

/-- On a thread that is not rendering, an event becomes a JSON line without a report after it. The
    line has no control characters, and reads as an object with the texts of the event: a member
    for each field of the layout in its order, the pattern, and a member for each argument. The
    line is the same for any settings with the same format, date and field names, whatever the
    terminal understands and however the renderer was used before. -/
theorem json_line_decodes (hformatter : r.formatter = .braces)
    (hformat : r.settings.format = .json) (hidle : s.guards.isActive scene.thread = false) :
    ∃ l : Line, (r.render scene e s).1 = .line l ∧ l.trailer = none ∧
      (∀ c ∈ l.text, 0x20 ≤ c.toNat) ∧
      Json.read l.text = some (scene.members r.settings.date (s.numbers.number scene.thread) e
        (r.settings.layout.map Field.name)) ∧
      ∀ (r' : Renderer) (s' : RenderState) (terminal : Terminal), r'.formatter = .braces →
        r'.settings.SameContents r.settings → s'.guards.isActive scene.thread = false →
        s'.numbers.number scene.thread = s.numbers.number scene.thread →
        (r'.render { scene with terminal } e s').1 = .line l := by
  refine ⟨_, render_json hformatter hformat hidle, rfl, fun _ => Json.le_toNat_of_mem_object,
    Json.read_object _, fun r' s' terminal hformatter' hsame hidle' hnumber => ?_⟩
  have hother := @render_json r' { scene with terminal } e s' hformatter'
    (hsame.format.trans hformat) hidle'
  rw [hother, hsame.date, hsame.names, hnumber]
  rfl

/-! Quotes, backslashes and a control character, and markup that is not evaluated. -/

def objects : Builder :=
  { format := .json, layout := ["level".toList, "message".toList, "thread-id".toList] }

def objectsInColours : Builder :=
  { objects with
    mode := .ansi, gap := 3, width := 9, parameterStyle := none, styleAsLevel := true
    levels := objects.levels.set .info ⟨"note".toList, []⟩ }

def quoting : Event :=
  { level := .info, logger := "app".toList, pattern := "@\x7bb \"\x7b\x7d\"\x7d".toList,
    args := ["C:\\\x1b".toList] }

theorem objects_decode_quoting :
    ∃ l : Line, (Renderer.render ⟨objects.assemble, .braces, .latin1⟩ (sceneOf 80) quoting {}).1 =
        .line l ∧
      l.trailer = none ∧ (∀ c ∈ l.text, 0x20 ≤ c.toNat) ∧
      Json.read l.text = some
        [("level".toList, "INFO".toList), ("message".toList, "@\x7bb \"C:\\\x1b\"\x7d".toList),
          ("thread-id".toList, "1".toList), ("pattern".toList, "@\x7bb \"\x7b\x7d\"\x7d".toList),
          ("arg0".toList, "C:\\\x1b".toList)] ∧
      (Renderer.render ⟨objectsInColours.assemble, .braces, .latin1⟩
        { sceneOf 80 with terminal := ⟨none, true⟩ } quoting {}).1 = .line l := by
  obtain ⟨l, hline, htrailer, hshown, hread, hsame⟩ :=
    @json_line_decodes ⟨objects.assemble, .braces, .latin1⟩ (sceneOf 80) quoting {} rfl rfl rfl
  refine ⟨l, hline, htrailer, hshown, hread.trans (by decide +kernel), ?_⟩
  exact hsame ⟨objectsInColours.assemble, .braces, .latin1⟩ {} ⟨none, true⟩ rfl ⟨rfl, rfl, rfl⟩
    rfl rfl

end Renderer

end LogLine
