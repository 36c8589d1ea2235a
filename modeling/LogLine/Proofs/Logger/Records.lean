-- SUMMARY: A record's message is shown literally, in lines for a terminal and in JSON lines.
import LogLine.Proofs.Event.Interpolation
import LogLine.Proofs.Logger.Delivery
import LogLine.Proofs.Render.Showing

/-!
# Literal records

The message of a record is finished text. A logger makes a pattern of it, and the pattern
shows exactly this text: braces in it are not filled, backslashes before them stay, and
nothing in it means anything in markup.
-/

namespace LogLine

/-! ## Members -/

namespace Renderer

variable {r : Renderer} {value : Field → Text}

/-- The keys of an event without arguments: the names of the fields, and the pattern. -/
theorem keys_members {e : Event} (hargs : e.args = []) (value : Field → Text) :
    (r.members e (r.settings.layout.map value)).map Prod.fst =
      r.settings.layout.map Field.name ++ ["pattern".toList] := by
  rw [members, hargs, List.map_append, List.map_fst_zip (by simp)]
  rfl

theorem value_of_mem_members {e : Event} (hargs : e.args = []) {key text : Text}
    (hkey : key ≠ "pattern".toList)
    (hmem : (key, text) ∈ r.members e (r.settings.layout.map value)) :
    ∃ f ∈ r.settings.layout, f.name = key ∧ value f = text := by
  rw [members, hargs] at hmem
  rcases List.mem_append.mp hmem with hmem | hmem
  · rw [List.zip_map', List.mem_map] at hmem
    obtain ⟨f, hf, hfield⟩ := hmem
    exact ⟨f, hf, (Prod.mk.inj hfield).1, (Prod.mk.inj hfield).2⟩
  · have hpattern : (key, text) = ("pattern".toList, e.pattern) := List.mem_singleton.mp hmem
    exact absurd (Prod.mk.inj hpattern).1 hkey

end Renderer

theorem Field.kind_of_name {f : Field} (h : f.name = "message".toList) : f.kind = .message := by
  rw [kind, h]
  decide

/-! ## Records -/

namespace Logger

/-- A record whose level is enabled is written as a line of its event. -/
theorem sink_call_record {l : Logger} {scene : Scene} {level : Level} {logger message : Text}
    (henabled : l.renderer.isEnabled level = true)
    (hidle : l.state.guards.isActive scene.thread = false) {line : Line}
    (hline : l.renderer.outcome scene (.ofRecord level logger message)
      (l.renderer.plan scene.terminal l.state) l.state.numbers = .line line) :
    (l.call scene (.record level logger message)).sink = l.sink.write line := by
  have hadmitted : l.renderer.admitted? (.record level logger message) =
      some (.ofRecord level logger message) :=
    Renderer.admitted?_eq_some_iff.mpr ⟨rfl, Threshold.admits_iff.mp henabled⟩
  obtain ⟨_, -, hrender⟩ := Renderer.render_of_not_isActive (r := l.renderer) hidle
    (.ofRecord level logger message)
  rw [call_of_admitted hadmitted, hrender, hline]
  rfl

/-- A logger writes the message of a record literally if its level is enabled. Whatever the
    parameter style, the markup that stands for the message evaluates to it, outside every scope.
    This is what the message's columns have in a line for a terminal. In a JSON line the member of
    that name is the message. -/
theorem record_literal {l : Logger} (hformatter : l.renderer.formatter = .braces) {scene : Scene}
    (hidle : l.state.guards.isActive scene.thread = false) {level : Level}
    (henabled : l.renderer.isEnabled level = true) (logger message : Text) :
    let r := l.renderer
    let e := Event.ofRecord level logger message
    let written := (l.call scene (.record level logger message)).sink
    (∀ (style : Option Text) (expression : Expression),
      expression.unlimited.evaluate (Message.toMarkup e.pattern e.args style) = .plain message) ∧
    (r.settings.format = .tty → ∃ markup : Field → Text,
      written = l.sink.write (r.ttyLine (r.plan scene.terminal l.state)
        (r.settings.mode.usesAnsi scene.terminal) e (r.settings.layout.map markup)) ∧
      ∀ f, f.name = "message".toList →
        markup f = Message.toMarkup e.pattern e.args r.settings.parameterStyle) ∧
    (r.settings.format = .json → ∃ members,
      written = l.sink.write { text := Json.object members } ∧
      members.map Prod.fst = r.settings.layout.map Field.name ++ ["pattern".toList] ∧
      ∀ text, ("message".toList, text) ∈ members → text = message) := by
  intro r e written
  have hends : r.formatter.Ends e := Renderer.ends_braces hformatter
  refine ⟨fun style expression => Message.evaluate_patternOf expression style message,
    fun hformat => ?_, fun hformat => ?_⟩
  · obtain ⟨markup, hmarkup, hline⟩ := Renderer.exists_outcome_tty scene hends hformat
      (r.plan scene.terminal l.state) l.state.numbers
    refine ⟨markup, sink_call_record henabled hidle hline, fun f hname => ?_⟩
    have hfield := hmarkup f
    rw [Field.kind_of_name hname, Renderer.markup?_message hformatter] at hfield
    exact (Option.some.inj hfield).symm
  · obtain ⟨value, hvalue, hline⟩ := Renderer.exists_outcome_json scene hends hformat
      (r.plan scene.terminal l.state) l.state.numbers
    refine ⟨r.members e (r.settings.layout.map value), sink_call_record henabled hidle hline,
      Renderer.keys_members rfl value, fun text hmem => ?_⟩
    obtain ⟨f, -, hname, rfl⟩ := Renderer.value_of_mem_members rfl (by decide) hmem
    have hfield := hvalue f
    rw [Field.kind_of_name hname, Renderer.plain?_message hformatter] at hfield
    exact (Option.some.inj hfield).symm.trans (Message.text_patternOf message)

/-! A logger of JSON lines, and a message with backslashes before its braces. -/

def collecting : Logger :=
  { renderer :=
      { settings := ({ layout := ["message".toList], format := .json } : Builder).assemble }
    sink := .memory {} }

theorem record_literal_slashes :
    ∃ members, (collecting.call (Renderer.sceneOf 80) (.record .info "db".toList
        "@\x7bb \\\\\x7b\x7d\x7d \\\x7b\x7d\x7b\x7d".toList)).sink =
      .memory ⟨Json.object members ++ ['\n']⟩ ∧
      members.map Prod.fst = ["message".toList, "pattern".toList] ∧
      ∀ text, ("message".toList, text) ∈ members →
        text = "@\x7bb \\\\\x7b\x7d\x7d \\\x7b\x7d\x7b\x7d".toList := by
  obtain ⟨-, -, hjson⟩ := @record_literal collecting rfl (Renderer.sceneOf 80) rfl .info
    (by decide) "db".toList "@\x7bb \\\\\x7b\x7d\x7d \\\x7b\x7d\x7b\x7d".toList
  exact hjson rfl

end Logger

end LogLine
