-- SUMMARY: A kept plan is given again as long as its width is asked for and it is not given up.
import LogLine.Layout.Cache
import Mathlib.Data.List.Chain

/-!
# Kept plans

A cache keeps the plan that it made last, whatever fields it was made for. Which calls
make a new plan can therefore be told from the widths of the calls and from where plans
were given up, and the cache counts exactly these calls. As long as fields and gap only
change where plans are given up, nobody can tell a kept plan from a new one.
-/

namespace LogLine

namespace PlanCache

variable {c : PlanCache} {fields : List Field} {width gap : Nat}

/-! ## Kept plans -/

/-- A kept plan is the one that would be made anew for its width. -/
def Faithful (c : PlanCache) (fields : List Field) (gap : Nat) : Prop :=
  ∀ p, c.plan = some p → p = .ofFields fields p.terminalWidth gap

theorem faithful_new (fields : List Field) (gap : Nat) : ({} : PlanCache).Faithful fields gap := by
  intro p hp
  cases hp

theorem plan_of_kept? {width : Nat} {p : Plan} (h : c.kept? width = some p) :
    c.plan = some p ∧ p.terminalWidth = width := by
  rw [kept?, Option.filter_eq_some_iff] at h
  exact ⟨h.1, by simpa using h.2⟩

/-- A faithful cache gives the plan for the width that is asked for. -/
theorem Faithful.get_eq (h : c.Faithful fields gap) (width : Nat) :
    c.get fields width gap = .ofFields fields width gap := by
  unfold get
  cases hkept : c.kept? width with
  | none => rfl
  | some p =>
    obtain ⟨hplan, hwidth⟩ := plan_of_kept? hkept
    rw [Option.getD_some, h p hplan, hwidth]

theorem Faithful.visit (h : c.Faithful fields gap) (width : Nat) :
    (c.visit fields width gap).Faithful fields gap := by
  unfold PlanCache.visit
  split
  · exact h
  · intro p hp
    cases hp
    rfl

theorem faithful_invalidate (c : PlanCache) : c.invalidate.Faithful fields gap := by
  intro p hp
  cases hp

/-- The width that the kept plan is for. -/
def keptWidth (c : PlanCache) : Option Nat := c.plan.map Plan.terminalWidth

theorem keptWidth_visit (c : PlanCache) (fields : List Field) (width gap : Nat) :
    (c.visit fields width gap).keptWidth = some width := by
  unfold visit
  cases hkept : c.kept? width with
  | none => rfl
  | some p =>
    obtain ⟨hplan, hwidth⟩ := plan_of_kept? hkept
    simp only [keptWidth, hplan, Option.map_some, hwidth]

/-- A plan is made exactly if none is kept for the width. -/
theorem rebuilds_visit (c : PlanCache) (fields : List Field) (width gap : Nat) :
    (c.visit fields width gap).rebuilds =
      c.rebuilds + if c.keptWidth = some width then 0 else 1 := by
  unfold visit keptWidth kept?
  cases hplan : c.plan with
  | none => rfl
  | some p =>
    by_cases hwidth : p.terminalWidth = width
    · simp [Option.filter, hwidth]
    · simp [Option.filter, hwidth]

/-- The plan that a call leaves is the one that it gives. -/
theorem plan_visit (c : PlanCache) (fields : List Field) (width gap : Nat) :
    (c.visit fields width gap).plan = some (c.get fields width gap) := by
  unfold visit get
  cases hkept : c.kept? width with
  | none => rfl
  | some p => exact (plan_of_kept? hkept).1

theorem kept?_of_keptWidth_ne (h : c.keptWidth ≠ some width) : c.kept? width = none := by
  cases hkept : c.kept? width with
  | none => rfl
  | some p =>
    obtain ⟨hplan, hwidth⟩ := plan_of_kept? hkept
    rw [keptWidth, hplan, Option.map_some, hwidth] at h
    exact absurd rfl h

/-- Without a plan for the width, a new one is made. -/
theorem get_of_keptWidth_ne (h : c.keptWidth ≠ some width) :
    c.get fields width gap = .ofFields fields width gap := by
  rw [get, kept?_of_keptWidth_ne h, Option.getD_none]

/-- A call for the width of the call before it is given the same plan, whatever its fields and gap,
    and leaves the cache as it is. -/
theorem visit_visit (c : PlanCache) (fields fields' : List Field) (width gap gap' : Nat) :
    (c.visit fields width gap).get fields' width gap' = c.get fields width gap ∧
      (c.visit fields width gap).visit fields' width gap' = c.visit fields width gap := by
  have hwidth : (c.get fields width gap).terminalWidth = width := by
    simpa [keptWidth, plan_visit] using c.keptWidth_visit fields width gap
  have hkept : (c.visit fields width gap).kept? width = some (c.get fields width gap) := by
    rw [kept?, plan_visit]
    simp [Option.filter, hwidth]
  exact ⟨by rw [get, hkept, Option.getD_some], by rw [visit, hkept]⟩

/-! ## Steps -/

/-- What can be done with a cache. -/
inductive Step where
  /-- Asks for the plan of some fields: a call. -/
  | get (fields : List Field) (width gap : Nat)
  | invalidate
deriving DecidableEq

/-- The width of a call. -/
def Step.width? : Step → Option Nat
  | .get _ width _ => some width
  | .invalidate => none

def step (c : PlanCache) : Step → PlanCache
  | .get fields width gap => c.visit fields width gap
  | .invalidate => c.invalidate

/-- The cache after steps in turn. -/
def after (c : PlanCache) (steps : List Step) : PlanCache := steps.foldl step c

theorem after_concat (c : PlanCache) (steps : List Step) (s : Step) :
    c.after (steps ++ [s]) = (c.after steps).step s :=
  List.foldl_concat ..

/-- The plan that a call gives, with its number. Plans are numbered as they are made, so it is the
    very same plan that two calls give if the numbers are the same. -/
def numbered (c : PlanCache) (fields : List Field) (width gap : Nat) : Nat × Plan :=
  ((c.visit fields width gap).rebuilds, c.get fields width gap)

/-! ## Calls that make a plan -/

/-- Whether a call for the given width has to make a plan, told from the steps before it: it is the
    first call, or plans were given up since the last one, or the last one was for another width. -/
def Due (steps : List Step) (width : Nat) : Prop :=
  (∀ s ∈ steps, s = .invalidate) ∨
    ∃ before fields last gap since, steps = before ++ .get fields last gap :: since ∧
      (∀ s ∈ since, s = .invalidate) ∧ (.invalidate ∈ since ∨ last ≠ width)

/-- Unless there was no call, one was the last, and since then plans were only given up. -/
theorem exists_last_call (steps : List Step) :
    (∀ s ∈ steps, s = .invalidate) ∨
      ∃ before fields last gap since, steps = before ++ .get fields last gap :: since ∧
        ∀ s ∈ since, s = .invalidate := by
  induction steps using List.reverseRecOn with
  | nil => exact .inl (List.forall_mem_nil _)
  | append_singleton steps s ih =>
    cases s with
    | get fields width gap => exact .inr ⟨steps, fields, width, gap, [], rfl, by simp⟩
    | invalidate =>
      rcases ih with hnone | ⟨before, fields, last, gap, since, rfl, hsince⟩
      · refine .inl fun s hs => ?_
        rcases List.mem_append.mp hs with hs | hs
        · exact hnone s hs
        · exact List.mem_singleton.mp hs
      · refine .inr ⟨before, fields, last, gap, since ++ [.invalidate], by simp, fun s hs => ?_⟩
        rcases List.mem_append.mp hs with hs | hs
        · exact hsince s hs
        · exact List.mem_singleton.mp hs

/-- A call has to make a plan unless the step right before it is a call for its width. -/
theorem due_iff {steps : List Step} :
    Due steps width ↔ steps.getLast?.bind Step.width? ≠ some width := by
  constructor
  · intro hdue hlast
    obtain ⟨s, hs, hwidth⟩ := Option.bind_eq_some_iff.mp hlast
    obtain ⟨before, rfl⟩ := List.getLast?_eq_some_iff.mp hs
    cases s with
    | invalidate => cases hwidth
    | get fields last gap =>
      rcases hdue with hnone | ⟨before', fields', last', gap', since, heq, hsince, hdue⟩
      · cases hnone (.get fields last gap) (by simp)
      · rcases List.eq_nil_or_concat since with rfl | ⟨since, s, rfl⟩
        · obtain ⟨-, hcall⟩ := List.append_inj' heq rfl
          cases hcall
          exact hdue.elim List.not_mem_nil (· (Option.some.inj hwidth))
        · -- The last step would have to give plans up.
          rw [List.concat_eq_append, ← List.cons_append, ← List.append_assoc] at heq
          obtain ⟨-, hcall⟩ := List.append_inj' heq rfl
          cases hcall
          cases hsince (.get fields last gap) (by simp)
  · intro hlast
    rcases exists_last_call steps with hnone | ⟨before, fields, last, gap, since, rfl, hsince⟩
    · exact .inl hnone
    · refine .inr ⟨before, fields, last, gap, since, rfl, hsince, ?_⟩
      rcases List.eq_nil_or_concat since with rfl | ⟨since, s, rfl⟩
      · refine .inr fun hwidth => hlast ?_
        rw [List.getLast?_concat, hwidth]
        rfl
      · obtain rfl := hsince s (by simp)
        exact .inl (by simp)

/-- A call that has nothing to make follows right on a call for its width. -/
theorem exists_call_of_not_due {steps : List Step} (h : ¬ Due steps width) :
    ∃ before fields gap, steps = before ++ [.get fields width gap] := by
  obtain ⟨s, hs, hwidth⟩ := Option.bind_eq_some_iff.mp (not_not.mp (due_iff.not.mp h))
  obtain ⟨before, rfl⟩ := List.getLast?_eq_some_iff.mp hs
  cases s with
  | invalidate => cases hwidth
  | get fields last gap => exact ⟨before, fields, gap, by rw [Option.some.inj hwidth]⟩

instance (steps : List Step) (width : Nat) : Decidable (Due steps width) :=
  decidable_of_iff _ due_iff.symm

/-- The number of calls among some steps that have to make a plan, after the steps before them. -/
def made (before : List Step) : List Step → Nat
  | [] => 0
  | .get fields width gap :: rest =>
    (if Due before width then 1 else 0) + made (before ++ [.get fields width gap]) rest
  | .invalidate :: rest => made (before ++ [.invalidate]) rest

/-- After any steps, the kept plan is for the width of the last step, if that was a call. -/
theorem keptWidth_after (steps : List Step) :
    (after {} steps).keptWidth = steps.getLast?.bind Step.width? := by
  rcases List.eq_nil_or_concat steps with rfl | ⟨steps, s, rfl⟩
  · rfl
  · rw [List.concat_eq_append, after_concat, List.getLast?_concat]
    cases s with
    | get fields width gap => exact keptWidth_visit _ fields width gap
    | invalidate => rfl

/-- A call makes a plan exactly if it has to. -/
theorem rebuilds_visit_after (steps : List Step) (fields : List Field) (width gap : Nat) :
    ((after {} steps).visit fields width gap).rebuilds =
      (after {} steps).rebuilds + if Due steps width then 1 else 0 := by
  rw [rebuilds_visit, keptWidth_after]
  by_cases hdue : Due steps width
  · rw [if_pos hdue, if_neg (due_iff.mp hdue)]
  · rw [if_neg hdue, if_pos (not_not.mp (due_iff.not.mp hdue))]

theorem rebuilds_after_append (before rest : List Step) :
    (after {} (before ++ rest)).rebuilds = (after {} before).rebuilds + made before rest := by
  induction rest generalizing before with
  | nil => rw [List.append_nil, made, Nat.add_zero]
  | cons s rest ih =>
    rw [List.append_cons, ih, after_concat]
    cases s with
    | get fields width gap => rw [step, rebuilds_visit_after, made, Nat.add_assoc]
    | invalidate => rfl

/-! ## Steady use -/

/-- Two steps that are both calls are for the same fields and gap. -/
def Step.Agrees : Step → Step → Prop
  | .get fields _ gap, .get fields' _ gap' => fields' = fields ∧ gap' = gap
  | _, _ => True

/-- Fields and gap are the same in calls that follow each other; where they change, plans are given
    up in between. -/
def Steady (steps : List Step) : Prop := steps.IsChain Step.Agrees

/-- In steady use, every call is given the plan that would be made anew. -/
theorem Steady.get_eq {steps : List Step} (h : Steady (steps ++ [.get fields width gap])) :
    (after {} steps).get fields width gap = .ofFields fields width gap := by
  induction steps using List.reverseRecOn generalizing fields gap with
  | nil => rfl
  | append_singleton steps s ih =>
    obtain ⟨hsteps, -, hagrees⟩ := List.isChain_append.mp h
    cases s with
    | get fields' width' gap' =>
      obtain ⟨rfl, rfl⟩ : fields = fields' ∧ gap = gap' := hagrees (.get fields' width' gap')
        (by simp) (.get fields width gap) (by simp)
      rw [after_concat, step]
      by_cases hwidth : width' = width
      · subst hwidth
        rw [(visit_visit _ fields fields width' gap gap).1]
        exact ih hsteps
      · refine get_of_keptWidth_ne ?_
        rw [keptWidth_visit]
        exact fun heq => hwidth (Option.some.inj heq)
    | invalidate =>
      rw [after_concat]
      rfl

/-! ## Calls after any steps -/

/-- After any steps on a new cache, a call makes a plan for what it asks exactly if it is the first
    call, or plans were given up since the last one, or that one was for another width; otherwise it
    is given the very plan that the last call was given, and the cache stays as it is. The cache
    counts the calls that made a plan. Where fields and gap change between calls only if plans are
    given up in between, every call is given the plan of what it asks. -/
theorem get_after (steps : List Step) (fields : List Field) (width gap : Nat) :
    let c := after {} steps
    ((c.visit fields width gap).rebuilds = c.rebuilds + 1 ↔ Due steps width) ∧
    (Due steps width → c.get fields width gap = .ofFields fields width gap) ∧
    (¬ Due steps width → c.visit fields width gap = c ∧
      ∃ before fields' gap', steps = before ++ [.get fields' width gap'] ∧
        c.numbered fields width gap = (after {} before).numbered fields' width gap') ∧
    c.rebuilds = made [] steps ∧
    (Steady (steps ++ [.get fields width gap]) →
      c.get fields width gap = .ofFields fields width gap) := by
  intro c
  refine ⟨?_, fun hdue => ?_, fun hkept => ?_, ?_, Steady.get_eq⟩
  · rw [rebuilds_visit_after]
    split
    · next hdue => exact iff_of_true rfl hdue
    · next hkept => exact iff_of_false (Nat.succ_ne_self _).symm hkept
  · refine get_of_keptWidth_ne ?_
    rw [keptWidth_after]
    exact due_iff.mp hdue
  · obtain ⟨before, fields', gap', rfl⟩ := exists_call_of_not_due hkept
    have hcache : c = (after {} before).visit fields' width gap' := after_concat {} before _
    obtain ⟨hget, hvisit⟩ := visit_visit (after {} before) fields' fields width gap' gap
    rw [← hcache] at hget hvisit
    refine ⟨hvisit, before, fields', gap', rfl, ?_⟩
    rw [numbered, numbered, hvisit, hget, hcache]
  · exact (rebuilds_after_append [] steps).trans (Nat.zero_add _)

/-! A cache that is asked for two layouts. -/

def levels : List Field := [{ name := "level".toList, width := 5 }]

def messages : List Field := [{ name := "message".toList }]

/-- The plan of the first layout is given again for the second one, until it is given up. -/
theorem get_after_given_up :
    let kept : List Step := [.get levels 40 1]
    let steady : List Step := kept ++ [.invalidate, .get messages 40 1, .get messages 50 1]
    (after {} kept).numbered messages 40 1 = (1, .ofFields levels 40 1) ∧
      ((after {} steady).rebuilds = 3 ∧
        ((after {} steady).visit messages 40 1).rebuilds = (after {} steady).rebuilds + 1) ∧
      (after {} steady).get messages 50 1 = .ofFields messages 50 1 := by
  intro kept steady
  obtain ⟨-, -, hkept, -⟩ := get_after kept messages 40 1
  obtain ⟨hmade, -, -, hcount, -⟩ := get_after steady messages 40 1
  obtain ⟨-, -, -, -, hsteady⟩ := get_after steady messages 50 1
  refine ⟨?_, ⟨hcount.trans (by decide), hmade.mpr (by decide)⟩, hsteady ?_⟩
  · obtain ⟨-, before, fields, gap, hsteps, hsame⟩ := hkept (by decide)
    have hcalls : [] ++ [.get levels 40 1] = before ++ [.get fields 40 gap] := hsteps
    obtain ⟨hnew, hcall⟩ := List.append_inj' hcalls rfl
    cases hnew
    cases hcall
    exact hsame
  · simp [Steady, Step.Agrees, steady, kept]

end PlanCache

end LogLine
