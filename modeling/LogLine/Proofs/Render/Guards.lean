-- SUMMARY: A thread is marked as rendering exactly while one of its guards is alive.
import LogLine.Proofs.Render.History
import LogLine.Render.Session

/-!
# Guards in a session

Trying to enter sets a thread's mark whether or not a guard is given, and dropping
a guard takes the mark away without a look at other guards. The marks are right
all the same: a refused entry finds the mark set and keeps nothing, so at any time
at most one entry of a thread can take it away, the one that set it.
-/

namespace LogLine

/-! ## Formatters on a thread that is rendering -/

/-- The formatter that does at once what another one does on a thread that is rendering: every
    rendering that it asks for is refused, and whenever it looks, the thread is rendering. -/
def Formatter.settled (f : Formatter) : Formatter := fun pattern args style =>
  (f pattern args style).whileRendering.elim .fail .done

theorem Formatter.whileRendering_settled (f : Formatter) (pattern : Text) (args : List Text)
    (style : Option Text) :
    (f.settled pattern args style).whileRendering = (f pattern args style).whileRendering := by
  unfold settled
  cases (f pattern args style).whileRendering <;> rfl

namespace Renderer

variable {r : Renderer} {again again' : Rendering} {scene : Scene} {e : Event} {s : RenderState}

/-- The renderer with what its formatter does on a thread that is rendering. -/
def settled (r : Renderer) : Renderer := { r with formatter := r.formatter.settled }

theorem run_settled (active : s.guards.isActive scene.thread = true)
    (refuses : again.Refuses scene.thread) (refuses' : again'.Refuses scene.thread)
    (pattern : Text) (args : List Text) (style : Option Text) :
    (r.settled.formatter pattern args style).run again' scene.thread s =
      (r.formatter pattern args style).run again scene.thread s := by
  rw [Formatting.run_eq_whileRendering active fun e => refuses' e s active,
    Formatting.run_eq_whileRendering active fun e => refuses e s active]
  exact congrArg (·, s) (r.formatter.whileRendering_settled pattern args style)

theorem plainValue_settled (active : s.guards.isActive scene.thread = true)
    (refuses : again.Refuses scene.thread) (refuses' : again'.Refuses scene.thread)
    (kind : FieldKind) :
    r.settled.plainValue again' scene e kind s = r.plainValue again scene e kind s := by
  cases kind with
  | message => simp only [plainValue, run_settled active refuses refuses']
  | _ => rfl

theorem markupValue_settled (active : s.guards.isActive scene.thread = true)
    (refuses : again.Refuses scene.thread) (refuses' : again'.Refuses scene.thread)
    (kind : FieldKind) :
    r.settled.markupValue again' scene e kind s = r.markupValue again scene e kind s := by
  cases kind with
  | level => rfl
  | message => exact run_settled active refuses refuses' _ _ _
  | _ => rfl

/-- On a thread that is rendering, values that agree one by one agree for all fields. -/
theorem values_congr {value value' : FieldKind → RenderState → Option Text × RenderState}
    {t : Thread}
    (hvalue : ∀ kind s, s.guards.isActive t = true → value' kind s = value kind s)
    (hactive : ∀ kind s, s.guards.isActive t = true → (value kind s).2.guards.isActive t = true)
    (fields : List Field) {s : RenderState} (active : s.guards.isActive t = true) :
    values value' fields s = values value fields s := by
  induction fields generalizing s with
  | nil => rfl
  | cons f fields ih =>
    have hnext := ih (hactive f.kind s active)
    simp only [values, hvalue f.kind s active]
    cases hfound : value f.kind s with
    | mk found next =>
      rw [hfound] at hnext
      cases found with
      | none => rfl
      | some v => simp only [hnext]

theorem ttyLine_settled (r : Renderer) (plan : Plan) (ansi : Bool) (e : Event)
    (values : List Text) : r.settled.ttyLine plan ansi e values = r.ttyLine plan ansi e values :=
  ttyLine_congr r r.settled rfl rfl (fun _ => rfl) rfl plan ansi values

theorem renderGuarded_settled (active : s.guards.isActive scene.thread = true)
    (refuses : again.Refuses scene.thread) (refuses' : again'.Refuses scene.thread) :
    r.settled.renderGuarded again' scene e s = r.renderGuarded again scene e s := by
  have hmarkup := values_congr (t := scene.thread)
    (fun kind s active => markupValue_settled (r := r) (e := e) active refuses refuses' kind)
    (fun kind s active => by rw [markupValue_eq active refuses]; exact active)
  have hplain := values_congr (t := scene.thread)
    (fun kind s active => plainValue_settled (r := r) (e := e) active refuses refuses' kind)
    (fun kind s active => by rw [plainValue_eq active refuses]; exact active)
  have hplan (t : Terminal) (s : RenderState) : r.settled.planFor t s = r.planFor t s := rfl
  have hjson (values : List Text) : r.settled.jsonLine e values = r.jsonLine e values := rfl
  unfold renderGuarded
  rw [show r.settled.settings = r.settings from rfl]
  cases r.settings.format with
  | tty =>
    have hactive : (r.planFor scene.terminal s).2.guards.isActive scene.thread = true := active
    simp only [hplan, hmarkup r.settings.layout hactive, ttyLine_settled]
  | json => simp only [hplain r.settings.layout active, hjson]

/-- While a line is rendered, every rendering that the formatter asks for is refused and changes
    nothing, and whenever it looks, its thread is rendering. -/
theorem render_settled (r : Renderer) (scene : Scene) (e : Event) (s : RenderState) :
    r.settled.render scene e s = r.render scene e s := by
  cases hactive : s.guards.isActive scene.thread with
  | true => rw [render_of_isActive hactive, render_of_isActive hactive]
  | false =>
    have active : (s.guards.mark scene.thread true).isActive scene.thread = true := by
      rw [Guards.isActive_mark, if_pos rfl]
    have hguarded := renderGuarded_settled (r := r) (e := e)
      (s := { s with guards := s.guards.mark scene.thread true }) active
      (r.refuses_renderWithin scene 1) (r.settled.refuses_renderWithin scene 1)
    rw [render, render, renderWithin_of_not_isActive hactive, renderWithin_of_not_isActive hactive,
      hguarded]

/-- Rendering leaves all marks as it found them, whatever becomes of the event. -/
theorem guards_render (r : Renderer) (scene : Scene) (e : Event) (s : RenderState) :
    (r.render scene e s).2.guards = s.guards := by
  cases hactive : s.guards.isActive scene.thread with
  | true => rw [render_of_isActive hactive]
  | false =>
    obtain ⟨n, -, hrender⟩ := render_of_not_isActive (r := r) hactive e
    rw [hrender]

end Renderer

/-! ## Living guards -/

/-- The thread that takes a step. A guard is dropped on the thread that it was given to. -/
def SessionStep.thread? (s : Session) : SessionStep → Option Thread
  | .enter t => some t
  | .drop entry => s.entries[entry]?.map Prod.fst
  | .unwind t _ => some t
  | .render _ scene _ => some scene.thread

namespace Session

variable {s s' : Session} {t : Thread} {entry : Nat}

/-- An entry keeps a guard of a thread. -/
def Alive (s : Session) (entry : Nat) (t : Thread) : Prop :=
  ∃ t', s.entries[entry]? = some (t', true) ∧ t'.key = t.key

/-- Every thread is marked exactly while a guard of it is alive, and has one at most. -/
structure Exact (s : Session) : Prop where
  isActive_iff : ∀ t, s.isActive t = true ↔ ∃ entry, s.Alive entry t
  unique : ∀ t i j, s.Alive i t → s.Alive j t → i = j

theorem exact_new {state : RenderState} (h : state.guards = {}) : ({ state } : Session).Exact := by
  refine ⟨fun t => ?_, fun t i j hi => ?_⟩
  · simp [isActive, h, Guards.isActive, Alive]
  · obtain ⟨t', hentry, -⟩ := hi
    cases hentry

/-- Only marks and entries count. -/
theorem Exact.congr (h : s.Exact) (hguards : s'.state.guards = s.state.guards)
    (hentries : s'.entries = s.entries) : s'.Exact := by
  refine ⟨fun t => ?_, fun t => ?_⟩
  · simpa only [isActive, Alive, hguards, hentries] using h.isActive_iff t
  · simpa only [Alive, hentries] using h.unique t

/-! ### Entering -/

/-- A new entry keeps a guard exactly if its thread was not marked. -/
theorem alive_enter (s : Session) (t : Thread) (i : Nat) (t' : Thread) :
    (s.enter t).2.Alive i t' ↔
      s.Alive i t' ∨ (i = s.entries.length ∧ s.isActive t = false ∧ t.key = t'.key) := by
  have hentries : (s.enter t).2.entries = s.entries ++ [(t, !s.isActive t)] := rfl
  simp only [Alive, hentries, List.getElem?_append, List.getElem?_singleton]
  by_cases hlt : i < s.entries.length
  · simp [hlt, Nat.ne_of_lt hlt]
  · by_cases hlast : i = s.entries.length
    · simp [hlast]
    · have hsub : i - s.entries.length ≠ 0 := by omega
      simp [hlt, hlast, hsub]

/-- Trying to enter marks the thread in any case. -/
theorem isActive_enter (s : Session) (t t' : Thread) :
    (s.enter t).2.isActive t' = if t'.key = t.key then true else s.isActive t' :=
  Guards.isActive_mark s.state.guards t t' true

theorem Exact.enter (h : s.Exact) (t : Thread) : (s.enter t).2.Exact := by
  refine ⟨fun t' => ?_, fun t' i j hi hj => ?_⟩
  · rw [isActive_enter]
    simp only [alive_enter]
    by_cases hkey : t'.key = t.key
    · rw [if_pos hkey]
      refine iff_of_true rfl ?_
      cases hactive : s.isActive t with
      | true =>
        obtain ⟨entry, u, hentry, hu⟩ := (h.isActive_iff t).mp hactive
        exact ⟨entry, .inl ⟨u, hentry, hu.trans hkey.symm⟩⟩
      | false => exact ⟨s.entries.length, .inr ⟨rfl, rfl, hkey.symm⟩⟩
    · rw [if_neg hkey]
      have hold (i : Nat) : s.Alive i t' ∨
          (i = s.entries.length ∧ s.isActive t = false ∧ t.key = t'.key) ↔ s.Alive i t' :=
        or_iff_left fun hi => hkey hi.2.2.symm
      simp only [hold]
      exact h.isActive_iff t'
  · -- A thread that gets a guard was not marked, so it had none.
    have hnone (i : Nat) (hactive : s.isActive t = false) (hkey : t.key = t'.key) :
        ¬ s.Alive i t' := by
      rintro ⟨u, hentry, hu⟩
      have hmarked := (h.isActive_iff t).mpr ⟨i, u, hentry, hu.trans hkey.symm⟩
      rw [hactive] at hmarked
      cases hmarked
    rcases (alive_enter s t i t').mp hi with hi | ⟨hi, hactive, hkey⟩
    · rcases (alive_enter s t j t').mp hj with hj | ⟨-, hactive, hkey⟩
      · exact h.unique t' i j hi hj
      · exact absurd hi (hnone i hactive hkey)
    · rcases (alive_enter s t j t').mp hj with hj | ⟨hj, -, -⟩
      · exact absurd hj (hnone j hactive hkey)
      · rw [hi, hj]

/-! ### Dropping -/

theorem drop_of_alive {u : Thread} (h : s.entries[entry]? = some (u, true)) :
    s.drop entry = (.guard true,
      { s.withGuards (s.state.guards.leave u) with entries := s.entries.set entry (u, false) }) := by
  simp only [drop, h]

theorem drop_of_not_alive (h : ¬ ∃ t, s.Alive entry t) : s.drop entry = (.guard false, s) := by
  unfold drop
  split
  · next u hentry => exact absurd ⟨u, u, hentry, rfl⟩ h
  · rfl

/-- A dropped entry keeps nothing, and the others keep what they kept. -/
theorem alive_drop (s : Session) (entry i : Nat) (t : Thread) :
    (s.drop entry).2.Alive i t ↔ s.Alive i t ∧ i ≠ entry := by
  by_cases halive : ∃ t, s.Alive entry t
  · obtain ⟨-, u, hentry, -⟩ := halive
    rw [drop_of_alive hentry]
    simp only [Alive, List.getElem?_set]
    by_cases hi : entry = i
    · subst hi
      simp
    · simp [hi, Ne.symm hi]
  · have hother (hi : s.Alive i t) : i ≠ entry := fun heq => halive ⟨t, heq ▸ hi⟩
    rw [drop_of_not_alive halive]
    exact (and_iff_left_of_imp hother).symm

theorem Exact.drop (h : s.Exact) (entry : Nat) : (s.drop entry).2.Exact := by
  refine ⟨fun t => ?_, fun t i j hi hj => ?_⟩
  · simp only [alive_drop]
    by_cases halive : ∃ t, s.Alive entry t
    · obtain ⟨-, u, hentry, -⟩ := halive
      have hmark := Guards.isActive_mark s.state.guards u t false
      rw [drop_of_alive hentry]
      by_cases hkey : t.key = u.key
      · rw [if_pos hkey] at hmark
        -- The thread's only guard was the one that is dropped.
        refine iff_of_false (Bool.eq_false_iff.mp hmark) ?_
        rintro ⟨i, hi, hne⟩
        exact hne (h.unique t i entry hi ⟨u, hentry, hkey.symm⟩)
      · rw [if_neg hkey] at hmark
        have hother (i : Nat) : s.Alive i t → i ≠ entry := by
          rintro ⟨v, hv, hvkey⟩ rfl
          rw [hentry] at hv
          cases hv
          exact hkey hvkey.symm
        simp only [and_iff_left_of_imp (hother _)]
        exact (Bool.eq_iff_iff.mp hmark).trans (h.isActive_iff t)
    · have hother (i : Nat) (hi : s.Alive i t) : i ≠ entry := fun heq => halive ⟨t, heq ▸ hi⟩
      rw [drop_of_not_alive halive]
      simp only [and_iff_left_of_imp (hother _)]
      exact h.isActive_iff t
  · exact h.unique t i j ((alive_drop s entry i t).mp hi).1 ((alive_drop s entry j t).mp hj).1

/-- Where the only guard of a thread is gone, the thread is not marked. -/
theorem Exact.isActive_eq_false (h : s.Exact) (hs' : s'.Exact) (halive : s.Alive entry t)
    (hgone : ∀ i, s'.Alive i t → s.Alive i t ∧ i ≠ entry) : s'.isActive t = false := by
  refine Bool.eq_false_iff.mpr fun hactive => ?_
  obtain ⟨i, hi⟩ := (hs'.isActive_iff t).mp hactive
  exact (hgone i hi).2 (h.unique t i entry (hgone i hi).1 halive)

/-- Dropping what an entry of another thread keeps does not change a thread's mark. -/
theorem isActive_drop_of_ne (hne : s.entries[entry]?.map (·.1.key) ≠ some t.key) :
    (s.drop entry).2.isActive t = s.isActive t := by
  by_cases halive : ∃ t, s.Alive entry t
  · obtain ⟨-, u, hentry, -⟩ := halive
    have hkey : t.key ≠ u.key := by
      rw [hentry] at hne
      exact fun hkey => hne (congrArg some hkey.symm)
    rw [drop_of_alive hentry]
    exact (Guards.isActive_mark s.state.guards u t false).trans (if_neg hkey)
  · rw [drop_of_not_alive halive]

/-- An entry stays with its thread. -/
theorem key_drop (s : Session) (entry i : Nat) :
    (s.drop entry).2.entries[i]?.map (·.1.key) = s.entries[i]?.map (·.1.key) := by
  by_cases halive : ∃ t, s.Alive entry t
  · obtain ⟨-, u, hentry, -⟩ := halive
    rw [drop_of_alive hentry]
    simp only [List.getElem?_set]
    split
    · next hi =>
      subst hi
      have hlt : entry < s.entries.length := (List.getElem?_eq_some_iff.mp hentry).1
      rw [if_pos hlt, hentry]
      rfl
    · rfl
  · rw [drop_of_not_alive halive]

/-! ### Breaking off -/

/-- Breaking off drops what is passed on the way, and nothing else: the guard that was just given
    leaves no trace. -/
theorem unwind_eq (s : Session) (t : Thread) (passed : List Nat) :
    s.unwind t passed = (.guard (!s.isActive t),
      (passed.filter (s.isEntryOf t)).foldl (fun s entry => (s.drop entry).2) s) := by
  cases hactive : s.isActive t with
  | true =>
    have hguards := Guards.enter_of_isActive hactive
    simp only [unwind, hguards]
    rfl
  | false =>
    have hguards := Guards.enter_of_not_isActive hactive
    simp only [unwind, hguards, if_true, Guards.leave_enter hactive]
    rfl

theorem Exact.foldl_drop (h : s.Exact) (entries : List Nat) :
    (entries.foldl (fun s entry => (s.drop entry).2) s).Exact := by
  induction entries generalizing s with
  | nil => exact h
  | cons entry entries ih => exact ih (h.drop entry)

theorem alive_foldl_drop {entries : List Nat} {i : Nat} :
    (entries.foldl (fun s entry => (s.drop entry).2) s).Alive i t ↔ s.Alive i t ∧ i ∉ entries := by
  induction entries generalizing s with
  | nil => simp
  | cons entry entries ih =>
    rw [List.foldl_cons, ih, alive_drop, List.mem_cons, not_or, and_assoc]

theorem isActive_foldl_drop {u : Thread} {entries : List Nat} (hne : u.key ≠ t.key)
    (h : ∀ i ∈ entries, s.entries[i]?.map (·.1.key) = some u.key) :
    (entries.foldl (fun s entry => (s.drop entry).2) s).isActive t = s.isActive t := by
  induction entries generalizing s with
  | nil => rfl
  | cons entry entries ih =>
    have hentry : s.entries[entry]?.map (·.1.key) ≠ some t.key := by
      rw [h entry List.mem_cons_self]
      exact fun heq => hne (Option.some.inj heq)
    have hrest : ∀ i ∈ entries, (s.drop entry).2.entries[i]?.map (·.1.key) = some u.key :=
      fun i hi => (key_drop s entry i).trans (h i (List.mem_cons_of_mem _ hi))
    rw [List.foldl_cons, ih hrest, isActive_drop_of_ne hentry]

/-! ### Steps and runs -/

theorem Exact.step (h : s.Exact) (step : SessionStep) : (s.step step).2.Exact := by
  cases step with
  | enter t => exact h.enter t
  | drop entry => exact h.drop entry
  | unwind t passed =>
    rw [Session.step, unwind_eq]
    exact h.foldl_drop _
  | render r scene e => exact h.congr (r.guards_render scene e s.state) rfl

theorem Exact.after (h : s.Exact) (steps : List SessionStep) : (s.after steps).Exact := by
  induction steps generalizing s with
  | nil => exact h
  | cons step steps ih => exact ih (h.step step)

/-- A step changes the mark of the thread that takes it, if any. -/
theorem isActive_step_of_ne {step : SessionStep}
    (hne : (step.thread? s).map Thread.key ≠ some t.key) :
    (s.step step).2.isActive t = s.isActive t := by
  cases step with
  | enter u =>
    have hkey : t.key ≠ u.key := fun hkey => hne (congrArg some hkey.symm)
    exact (Guards.isActive_mark s.state.guards u t true).trans (if_neg hkey)
  | drop entry =>
    refine isActive_drop_of_ne ?_
    simpa [SessionStep.thread?, Function.comp_def] using hne
  | unwind u passed =>
    rw [Session.step, unwind_eq]
    refine isActive_foldl_drop (u := u) (fun hkey => hne (congrArg some hkey)) fun i hi => ?_
    have hentry := (List.mem_filter.mp hi).2
    simpa [isEntryOf, Option.any_eq_true] using hentry
  | render r scene e => exact congrArg (·.isActive t) (r.guards_render scene e s.state)

/-! ## The guards of a session -/

/-- At any time in a session, a thread is marked exactly while a guard of it is alive, and at most
    one is. An entry is let in exactly if none is, and then keeps one; a refused one changes no
    mark. Dropping a guard, or breaking off past it, takes the mark away, and dropping what keeps
    nothing changes nothing. No step changes the marks of other threads, and rendering none at all,
    whatever becomes of the event. A rendering while a guard of its thread is alive is refused and
    leaves everything as it is; in any other one, what the formatter asks for is refused likewise,
    and the thread is marked whenever it looks. -/
theorem guards_exact {state : RenderState} (hnew : state.guards = {}) (steps : List SessionStep)
    {s : Session} (hs : s = ({ state } : Session).after steps) :
    (∀ t, s.isActive t = true ↔ ∃ entry, s.Alive entry t) ∧
    (∀ t i j, s.Alive i t → s.Alive j t → i = j) ∧
    (∀ t, (s.step (.enter t)).1 = .guard true ↔ ¬ ∃ entry, s.Alive entry t) ∧
    (∀ t, (s.step (.enter t)).1 = .guard true →
      (s.step (.enter t)).2.Alive s.entries.length t) ∧
    (∀ t t', (s.step (.enter t)).1 = .guard false →
      (s.step (.enter t)).2.isActive t' = s.isActive t') ∧
    (∀ entry t, s.Alive entry t → (s.step (.drop entry)).2.isActive t = false ∧
      ∀ passed, entry ∈ passed → (s.step (.unwind t passed)).2.isActive t = false) ∧
    (∀ entry, (¬ ∃ t, s.Alive entry t) → s.step (.drop entry) = (.guard false, s)) ∧
    (∀ step t, (SessionStep.thread? s step).map Thread.key ≠ some t.key →
      (s.step step).2.isActive t = s.isActive t) ∧
    (∀ r scene e t, (s.step (.render r scene e)).2.isActive t = s.isActive t) ∧
    (∀ r scene e, (∃ entry, s.Alive entry scene.thread) →
      s.step (.render r scene e) = (.rendering .refused, s)) ∧
    ∀ r scene e, s.step (.render r.settled scene e) = s.step (.render r scene e) := by
  have hexact : s.Exact := hs ▸ (exact_new hnew).after steps
  have hreply (t : Thread) : (s.step (.enter t)).1 = .guard (!s.isActive t) := rfl
  refine ⟨hexact.isActive_iff, hexact.unique, fun t => ?_, fun t hgiven => ?_,
    fun t t' hrefused => ?_, fun entry t halive => ⟨?_, fun passed hpassed => ?_⟩,
    fun entry hnone => drop_of_not_alive hnone, fun step t hne => isActive_step_of_ne hne,
    fun r scene e t => congrArg (·.isActive t) (r.guards_render scene e s.state),
    fun r scene e halive => ?_, fun r scene e => ?_⟩
  · rw [← hexact.isActive_iff, hreply]
    simp
  · rw [hreply] at hgiven
    exact (alive_enter s t _ t).mpr (.inr ⟨rfl, by simpa using hgiven, rfl⟩)
  · rw [hreply] at hrefused
    have hactive : s.isActive t = true := by simpa using hrefused
    rw [Session.step, isActive_enter]
    split
    · next hkey => exact (congrArg s.state.guards.active hkey).trans hactive |>.symm
    · rfl
  · exact hexact.isActive_eq_false (hexact.drop entry) halive fun i => (alive_drop s entry i t).mp
  · have hentry : entry ∈ passed.filter (s.isEntryOf t) := by
      obtain ⟨u, hentry, hkey⟩ := halive
      exact List.mem_filter.mpr ⟨hpassed, by simp [isEntryOf, hentry, hkey]⟩
    refine hexact.isActive_eq_false (hexact.step (.unwind t passed)) halive fun i hi => ?_
    rw [Session.step, unwind_eq, alive_foldl_drop] at hi
    exact ⟨hi.1, fun heq => hi.2 (heq ▸ hentry)⟩
  · have hactive := (hexact.isActive_iff scene.thread).mpr halive
    simp only [Session.step, Renderer.render_of_isActive hactive]
  · simp only [Session.step, Renderer.render_settled]

/-- A thread keeps a guard, is refused another, and drops what that kept: it is marked all along,
    and a line is refused on it. Another thread has broken off. -/
theorem guards_exact_kept :
    let first : Thread := ⟨1, none⟩
    let second : Thread := ⟨2, none⟩
    let s := ({} : Session).after [.enter first, .enter first, .drop 1, .unwind second]
    s.isActive first = true ∧ s.isActive second = false ∧
      (s.step (.enter second)).1 = .guard true ∧
      ∀ r e, s.step (.render r ⟨⟨none, false⟩, ⟨⟨0, 0, 0⟩, 0⟩, first⟩ e) =
        (.rendering .refused, s) := by
  intro first second s
  obtain ⟨hmarked, -, henter, -, -, -, -, -, -, hrefused, -⟩ := @guards_exact {} rfl
    [.enter first, .enter first, .drop 1, .unwind second] s rfl
  have hfirst : ∃ entry, s.Alive entry first := ⟨0, first, by decide, rfl⟩
  have hsecond : s.isActive second = false := by decide
  refine ⟨(hmarked first).mpr hfirst, hsecond, (henter second).mpr fun halive => ?_, fun r e => ?_⟩
  · rw [← hmarked, hsecond] at halive
    cases halive
  · exact hrefused r _ e hfirst

end Session

end LogLine
