-- SUMMARY: A logger over memory keeps the lines of exactly the events that its threshold admits.
import LogLine.Logger
import LogLine.Proofs.Render.Guards
import LogLine.Proofs.Render.Reuse
import LogLine.Proofs.Sink.Filling

/-!
# What a logger writes

An event and a record come to a logger by different ways, and a record is held against
the threshold twice. Both ways let the same levels through. What is let through is
rendered as if the logger were new, so memory holds, in the order of the calls, the
lines of the events that the threshold admits, and nothing else.
-/

namespace LogLine

/-! ## Thresholds -/

theorem Level.one_le_rank (l : Level) : 1 ≤ l.rank := by
  cases l <;> decide

namespace Threshold

theorem admits_iff {t : Threshold} {l : Level} : t.admits l = true ↔ l.rank ≤ t.rank := by
  obtain ⟨last⟩ := t
  cases last with
  | none =>
    have hpos := l.one_le_rank
    simp only [admits, rank, Option.any_none, Option.elim_none, Bool.false_eq_true, false_iff]
    omega
  | some last => simp [admits, rank]

/-- A level is kept out exactly if it is not let through. -/
theorem excludes_eq (t : Threshold) (l : Level) : t.excludes l = !t.admits l := by
  rw [Bool.eq_iff_iff, Bool.not_eq_true', Bool.eq_false_iff, ne_eq, admits_iff, excludes,
    decide_eq_true_eq, Nat.not_le]

end Threshold

/-! ## The two ways to a line -/

namespace Renderer

variable {r : Renderer} {scene : Scene} {e : Event} {s : RenderState}

theorem renderAdmitted_of_lt (h : r.settings.level.rank < e.level.rank) :
    r.renderAdmitted scene e s = (none, s) := by
  rw [renderAdmitted, if_pos]
  exact decide_eq_true h

theorem renderAdmitted_of_le (h : e.level.rank ≤ r.settings.level.rank) :
    r.renderAdmitted scene e s =
      ((r.render scene e s).1.line?, (r.render scene e s).2) := by
  have hkept : r.settings.level.excludes e.level = false :=
    decide_eq_false (Nat.not_lt.mpr h)
  rw [renderAdmitted, hkept]
  rfl

/-- Asking whether a record's level is enabled keeps out what its event would not pass anyway. -/
theorem renderRecord_eq (r : Renderer) (scene : Scene) (l : Level) (logger message : Text)
    (s : RenderState) :
    r.renderRecord scene l logger message s =
      r.renderAdmitted scene (.ofRecord l logger message) s := by
  cases henabled : r.isEnabled l with
  | true => simp only [renderRecord, henabled, if_true]
  | false =>
    have hexcluded : r.settings.level.excludes l = true := by
      rw [Threshold.excludes_eq]
      exact congrArg (!·) henabled
    have hlt : r.settings.level.rank < (Event.ofRecord l logger message).level.rank :=
      of_decide_eq_true hexcluded
    rw [renderAdmitted_of_lt hlt, renderRecord, henabled]
    rfl

/-- The number of the thread that is rendered on is not changed by it. -/
theorem number_render (idle : s.guards.isActive scene.thread = false) :
    (r.render scene e s).2.numbers.number scene.thread = s.numbers.number scene.thread := by
  obtain ⟨n, hn, hrender⟩ := render_of_not_isActive (r := r) idle e
  rw [hrender]
  exact hn.number_eq

end Renderer

/-! ## Calls -/

/-- The event that a call logs, if it logs one. -/
def LogCall.event? : LogCall → Option Event
  | .event e => some e
  | .record l logger message => some (.ofRecord l logger message)
  | .enabled _ => none
  | .flush => none

namespace Renderer

/-- The event that a call logs, if the threshold admits it. -/
def admitted? (r : Renderer) (c : LogCall) : Option Event :=
  c.event?.filter fun e => e.level.rank ≤ r.settings.level.rank

/-- The events that calls log and that the threshold admits, in order, each with the scene of its
    call. -/
def admitted (r : Renderer) (calls : List (Scene × LogCall)) : List (Scene × Event) :=
  calls.filterMap fun (scene, c) => (r.admitted? c).map (scene, ·)

theorem admitted?_eq_none_iff {r : Renderer} {c : LogCall} :
    r.admitted? c = none ↔ ∀ e, c.event? = some e → r.settings.level.rank < e.level.rank := by
  simp [admitted?, Option.filter_eq_none_iff]

theorem admitted?_eq_some_iff {r : Renderer} {c : LogCall} {e : Event} :
    r.admitted? c = some e ↔ c.event? = some e ∧ e.level.rank ≤ r.settings.level.rank := by
  simp [admitted?, Option.filter_eq_some_iff]

end Renderer

namespace Logger

variable {l l' : Logger} {m : Memory} {scene : Scene} {c : LogCall} {e : Event} {t : Thread}

/-- The logger after calls in turn, each in a scene of its own. -/
def after (l : Logger) (calls : List (Scene × LogCall)) : Logger :=
  calls.foldl (fun l c => l.call c.1 c.2) l

/-- What is written of an event that is rendered now: its line, a line feed, and the report if
    there is one; nothing if there is no line. -/
def recordOf (l : Logger) (scene : Scene) (e : Event) : Text :=
  match (l.renderer.render scene e l.state).1 with
  | .line line => line.text ++ '\n' :: line.trailer.getD []
  | _ => []

theorem call_of_event? (h : c.event? = some e) :
    l.call scene c = l.finish (l.renderer.renderAdmitted scene e l.state) := by
  cases c with
  | event e' =>
    cases h
    rfl
  | record level logger message =>
    cases h
    exact congrArg l.finish (l.renderer.renderRecord_eq scene level logger message l.state)
  | enabled level => cases h
  | flush => cases h

/-- A call that logs nothing, or an event below the threshold, changes nothing. -/
theorem call_of_not_admitted (h : l.renderer.admitted? c = none) : l.call scene c = l := by
  cases hevent : c.event? with
  | none =>
    cases c with
    | event e => cases hevent
    | record level logger message => cases hevent
    | enabled level => rfl
    | flush => rfl
  | some e =>
    have hlevel := Renderer.admitted?_eq_none_iff.mp h e hevent
    rw [call_of_event? hevent, Renderer.renderAdmitted_of_lt hlevel]
    rfl

/-- A call for an event that the threshold admits leaves what rendering it leaves. -/
theorem call_of_admitted (h : l.renderer.admitted? c = some e) :
    l.call scene c = l.finish ((l.renderer.render scene e l.state).1.line?,
      (l.renderer.render scene e l.state).2) := by
  obtain ⟨hevent, hlevel⟩ := Renderer.admitted?_eq_some_iff.mp h
  rw [call_of_event? hevent, Renderer.renderAdmitted_of_le hlevel]

/-- Memory takes what is written of an event that the threshold admits. -/
theorem sink_call (hsink : l.sink = .memory m) (h : l.renderer.admitted? c = some e) :
    (l.call scene c).sink = .memory ⟨m.contents ++ l.recordOf scene e⟩ := by
  rw [call_of_admitted h, finish, recordOf]
  cases (l.renderer.render scene e l.state).1 with
  | line line =>
    simp only [Outcome.line?, Option.elim_some, hsink, Sink.write, Memory.write, Line.record_eq]
  | refused => simp [Outcome.line?, hsink]
  | unwound => simp [Outcome.line?, hsink]

/-! ## Used loggers -/

/-- A logger that renders on a thread as a new one would: its kept plan is the one that it would
    make anew, and the thread is not rendering and has the given number. -/
structure Ready (l : Logger) (r : Renderer) (t : Thread) (number : Nat) : Prop where
  renderer : l.renderer = r
  faithful : r.Faithful l.state
  idle : l.state.guards.isActive t = false
  number : l.state.numbers.number t = number

variable {r : Renderer} {number : Nat}

/-- A logger that no call has changed yet is ready, also with a renderer that was used before. -/
theorem ready_of_used {s : RenderState} (hnew : s.cache = {}) (steps : List Renderer.Step)
    (hstate : l.state = l.renderer.after s steps) (idle : l.state.guards.isActive t = false) :
    l.Ready l.renderer t (l.state.numbers.number t) :=
  ⟨rfl, hstate ▸ Renderer.faithful_after hnew steps, idle, rfl⟩

/-- Loggers that are ready with one renderer make the same of an event. -/
theorem Ready.render_eq (h : l.Ready r t number) (h' : l'.Ready r t number)
    (hscene : scene.thread = t) :
    (l'.renderer.render scene e l'.state).1 = (l.renderer.render scene e l.state).1 := by
  subst hscene
  obtain ⟨_, -, hrender⟩ := Renderer.render_of_not_isActive (r := r) h.idle e
  obtain ⟨_, -, hrender'⟩ := Renderer.render_of_not_isActive (r := r) h'.idle e
  have hplan : r.plan scene.terminal l'.state = r.plan scene.terminal l.state :=
    (h'.faithful.get_eq _).trans (h.faithful.get_eq _).symm
  rw [h.renderer, h'.renderer, hrender, hrender', hplan]
  exact Renderer.outcome_congr (h'.number.trans h.number.symm) _

theorem Ready.recordOf_eq (h : l.Ready r t number) (h' : l'.Ready r t number)
    (hscene : scene.thread = t) : l'.recordOf scene e = l.recordOf scene e := by
  unfold recordOf
  rw [h.render_eq h' hscene]

/-- A call on the thread leaves the logger ready. -/
theorem Ready.call (h : l.Ready r t number) (hscene : scene.thread = t) (c : LogCall) :
    (l.call scene c).Ready r t number := by
  cases hadmitted : l.renderer.admitted? c with
  | none =>
    rw [call_of_not_admitted hadmitted]
    exact h
  | some e =>
    subst hscene
    rw [call_of_admitted hadmitted]
    obtain ⟨rfl, hfaithful, hidle, hnumber⟩ := h
    refine ⟨rfl, hfaithful.step (.render scene e), ?_, ?_⟩
    · exact (congrArg (·.isActive scene.thread) (l.renderer.guards_render scene e l.state)).trans
        hidle
    · exact (Renderer.number_render hidle).trans hnumber

theorem Ready.after (h : l.Ready r t number) {calls : List (Scene × LogCall)}
    (hthread : ∀ c ∈ calls, c.1.thread = t) : (l.after calls).Ready r t number := by
  induction calls generalizing l with
  | nil => exact h
  | cons c calls ih =>
    have hfirst := h.call (hthread c List.mem_cons_self) c.2
    exact ih hfirst fun c hc => hthread c (List.mem_cons_of_mem _ hc)

/-- What calls add to memory is known from the logger before them. -/
theorem Ready.sink_after (h : l.Ready r t number) (h' : l'.Ready r t number)
    (hsink : l'.sink = .memory m) {calls : List (Scene × LogCall)}
    (hthread : ∀ c ∈ calls, c.1.thread = t) :
    (l'.after calls).sink =
      .memory ⟨m.contents ++ (r.admitted calls).flatMap fun c => l.recordOf c.1 c.2⟩ := by
  induction calls generalizing l' m with
  | nil =>
    rw [Renderer.admitted, List.filterMap_nil, List.flatMap_nil, List.append_nil]
    exact hsink
  | cons c calls ih =>
    obtain ⟨scene, c⟩ := c
    have hscene : scene.thread = t := hthread (scene, c) List.mem_cons_self
    have hrest {m : Memory} (hsink : (l'.call scene c).sink = .memory m) :
        (l'.after ((scene, c) :: calls)).sink =
          .memory ⟨m.contents ++ (r.admitted calls).flatMap fun c => l.recordOf c.1 c.2⟩ :=
      ih (h'.call hscene c) hsink fun c hc => hthread c (List.mem_cons_of_mem _ hc)
    cases hadmitted : r.admitted? c with
    | none =>
      have hnone : r.admitted ((scene, c) :: calls) = r.admitted calls := by
        simp [Renderer.admitted, hadmitted]
      rw [hnone]
      exact hrest (by rw [call_of_not_admitted (h'.renderer.symm ▸ hadmitted), hsink])
    | some e =>
      have hsome : r.admitted ((scene, c) :: calls) = (scene, e) :: r.admitted calls := by
        simp [Renderer.admitted, hadmitted]
      have hfirst : (l'.call scene c).sink = .memory ⟨m.contents ++ l'.recordOf scene e⟩ :=
        sink_call hsink (h'.renderer.symm ▸ hadmitted)
      rw [hsome, hrest hfirst, List.flatMap_cons, h.recordOf_eq h' hscene, List.append_assoc]

theorem Ready.isEnabled_iff (h : l.Ready r t number) (level : Level) :
    l.renderer.isEnabled level = true ↔ level.rank ≤ r.settings.level.rank := by
  rw [Renderer.isEnabled, h.renderer]
  exact Threshold.admits_iff

/-- With a formatter that ends, what is written of an event has a line in it. -/
theorem Ready.exists_line (h : l.Ready r t number) (hscene : scene.thread = t)
    (hends : r.formatter.Ends e) :
    ∃ line, (l.renderer.render scene e l.state).1 = .line line ∧
      l.recordOf scene e = line.text ++ '\n' :: line.trailer.getD [] := by
  obtain ⟨rfl, -, hidle, -⟩ := h
  obtain ⟨_, -, hrender⟩ := Renderer.render_of_not_isActive (r := l.renderer) (hscene ▸ hidle) e
  obtain ⟨line, hline⟩ : ∃ line, l.renderer.outcome scene e
      (l.renderer.plan scene.terminal l.state) l.state.numbers = .line line :=
    Renderer.exists_line hends _ _
  have hrendered : (l.renderer.render scene e l.state).1 = .line line := by
    rw [hrender, hline]
  refine ⟨line, hrendered, ?_⟩
  rw [recordOf, hrendered]

/-- A call for an event writes something exactly if the threshold admits the event. -/
theorem Ready.sink_call_ne_iff (h : l.Ready r t number) (hsink : l.sink = .memory m)
    (hscene : scene.thread = t) (hevent : c.event? = some e) (hends : r.formatter.Ends e) :
    (l.call scene c).sink ≠ l.sink ↔ e.level.rank ≤ r.settings.level.rank := by
  constructor
  · intro hwritten
    by_contra hlevel
    have hnone : r.admitted? c = none := by
      refine Renderer.admitted?_eq_none_iff.mpr fun e' hevent' => ?_
      cases hevent.symm.trans hevent'
      exact Nat.not_le.mp hlevel
    exact hwritten (congrArg sink (call_of_not_admitted (h.renderer.symm ▸ hnone)))
  · intro hlevel
    have hsome : r.admitted? c = some e := Renderer.admitted?_eq_some_iff.mpr ⟨hevent, hlevel⟩
    obtain ⟨line, -, hrecord⟩ := h.exists_line hscene hends
    obtain ⟨contents⟩ := m
    rw [sink_call hsink (h.renderer.symm ▸ hsome), hsink, hrecord]
    simp

/-! ## Loggers over memory -/

/-- After any calls on a thread that is not rendering, memory holds what it held before and then
    the records of exactly the events that the threshold admits, in the order of the calls. Each is
    what the logger makes of its event, before the first of the calls or now, and with a formatter
    that ends there is a line in it. A call for an event below the threshold leaves everything as it
    is, and so does one that logs nothing. A level is enabled exactly if events and records of it
    are written. -/
theorem memory_after (hsink : l.sink = .memory m) {s : RenderState} (hnew : s.cache = {})
    (steps : List Renderer.Step) (hstate : l.state = l.renderer.after s steps)
    (hidle : l.state.guards.isActive t = false) {calls : List (Scene × LogCall)}
    (hthread : ∀ c ∈ calls, c.1.thread = t) :
    let now := l.after calls
    now.sink =
      .memory ⟨m.contents ++ (l.renderer.admitted calls).flatMap fun c => l.recordOf c.1 c.2⟩ ∧
    (∀ scene e, scene.thread = t → now.recordOf scene e = l.recordOf scene e ∧
      (l.renderer.formatter.Ends e → ∃ line, (l.renderer.render scene e l.state).1 = .line line ∧
        l.recordOf scene e = line.text ++ '\n' :: line.trailer.getD [])) ∧
    (∀ scene c, (∀ e, c.event? = some e → l.renderer.settings.level.rank < e.level.rank) →
      now.call scene c = now) ∧
    (∀ level, now.renderer.isEnabled level = true ↔
      level.rank ≤ l.renderer.settings.level.rank) ∧
    ∀ scene c e, scene.thread = t → c.event? = some e → l.renderer.formatter.Ends e →
      (now.renderer.isEnabled e.level = true ↔ (now.call scene c).sink ≠ now.sink) := by
  intro now
  have hready := ready_of_used hnew steps hstate hidle
  have hnow : now.Ready l.renderer t (l.state.numbers.number t) := hready.after hthread
  have hcontents := hready.sink_after hready hsink hthread
  refine ⟨hcontents, fun scene e hscene => ?_, fun scene c hlt => ?_, hnow.isEnabled_iff,
    fun scene c e hscene hevent hends => ?_⟩
  · exact ⟨hready.recordOf_eq hnow hscene, hready.exists_line hscene⟩
  · have hnone := Renderer.admitted?_eq_none_iff.mpr hlt
    exact call_of_not_admitted (hnow.renderer.symm ▸ hnone)
  · rw [hnow.isEnabled_iff]
    exact (hnow.sink_call_ne_iff hcontents hscene hevent hends).symm

/-! A logger of warnings and errors, on a terminal that grows from sixteen cells to twenty. -/

def warning : Builder :=
  { layout := ["level".toList, "message".toList], mode := .plain, level := .upTo .warn }

def warned : Logger := { renderer := { settings := warning.assemble }, sink := .memory {} }

def troubles : List (Scene × LogCall) :=
  [(Renderer.sceneOf 16, .record .info "db".toList "quiet".toList),
    (Renderer.sceneOf 16, .record .error "db".toList "\x7b\x7d lost".toList),
    (Renderer.sceneOf 16, .enabled .info),
    (Renderer.sceneOf 20, .flush),
    (Renderer.sceneOf 20, .event { level := .warn, logger := "db".toList, pattern := "late".toList,
                                   errors := ["full".toList] })]

theorem memory_after_troubles :
    (warned.after troubles).sink =
      .memory ⟨"ERROR \x7b\x7d lost   \nWARN  late          \nError: full\n".toList⟩ := by
  obtain ⟨hcontents, -⟩ := @memory_after warned {} ⟨1, none⟩ rfl {} rfl [] rfl rfl troubles
    (by decide +kernel)
  rw [hcontents]
  decide +kernel

end Logger

end LogLine
