-- SUMMARY: Which builders build, what they are refused for, and what built settings hold.
import LogLine.Proofs.Config.Building
import LogLine.Proofs.Layout.Sharing
import Mathlib.Data.List.Induction

/-!
# Validation

A builder comes about by changes to the first one. Of two changes to the same thing the
later one counts; fields and levels count apart from each other. Whether the settings can
be built depends on the layout and the target alone: the first name of the layout that came
before or that has no field is reported, and after that a file without a path. Settings
that were built have the field of every name, in the order of the names.
-/

namespace LogLine

theorem Fields.get?_put (fields : Fields) (f : Field) (name : Text) :
    (fields.put f).get? name = if f.name = name then some f else fields.get? name := by
  by_cases h : f.name = name
  · rw [if_pos h, get?, put, List.find?_cons_of_pos (by simpa using h)]
  · have hrest := fields.get?_without f.name name
    rw [if_neg (Ne.symm h)] at hrest
    rw [if_neg h, ← hrest, get?, put, List.find?_cons_of_neg (by simpa using h)]
    rfl

namespace Builder

/-! ## Changes -/

/-- A change to a builder. -/
inductive Change where
  | mode (mode : OutputMode)
  | format (format : LineFormat)
  | level (level : Threshold)
  | styleAsLevel (enabled : Bool)
  | gap (gap : Nat)
  | width (width : Nat)
  | fallbackWidth (width : Nat)
  | ellipsis (ellipsis : Text)
  | parameterStyle (style : Option Text)
  | target (target : Target)
  | layout (names : List Text)
  | field (f : Field)
  | levelStyle (l : Level) (look : LevelStyle)
  | date (date : DateFormat)
  | style (name spec : Text)

def change (b : Builder) : Change → Builder
  | .mode mode => { b with mode }
  | .format format => { b with format }
  | .level level => { b with level }
  | .styleAsLevel styleAsLevel => { b with styleAsLevel }
  | .gap gap => { b with gap }
  | .width width => { b with width }
  | .fallbackWidth fallbackWidth => { b with fallbackWidth }
  | .ellipsis ellipsis => { b with ellipsis }
  | .parameterStyle parameterStyle => { b with parameterStyle }
  | .target target => { b with target }
  | .layout layout => { b with layout }
  | .field f => b.field f
  | .levelStyle l look => b.levelStyle l look
  | .date date => { b with date }
  | .style name spec => b.style name spec

/-- The builder that changes lead to, the first of them first. -/
def after (changes : List Change) : Builder := changes.foldl change {}

namespace Change

/-! What a change tells about one thing, if it is about this. -/

def layout? : Change → Option (List Text)
  | .layout names => some names
  | _ => none

def target? : Change → Option Target
  | .target goal => some goal
  | _ => none

/-- The field that a change specifies for a name. -/
def field? (name : Text) : Change → Option (Option Field)
  | .field f => if f.name = name then some (some f) else none
  | _ => none

def look? (l : Level) : Change → Option LevelStyle
  | .levelStyle l' look => if l = l' then some look else none
  | _ => none

/-! What changes leave in the end: what was told last, or what there was from the start. -/

section Last

variable {α : Type} (told : Change → Option α) (start : α) (changes : List Change)

def last : α := ((changes.filterMap told).getLast?).getD start

theorem last_concat (c : Change) :
    last told start (changes ++ [c]) = (told c).getD (last told start changes) := by
  rw [last, List.filterMap_append, List.getLast?_append]
  cases h : told c with
  | none => rw [List.filterMap_cons_none h]; rfl
  | some a => rw [List.filterMap_cons_some h]; rfl

end Last

variable (changes : List Change)

def names : List Text :=
  last layout? ["level".toList, "name".toList, "message".toList] changes

def goal : Target := last target? .stderr changes

def specified? (name : Text) : Option Field :=
  last (field? name) (Fields.default.get? name) changes

def look (l : Level) : LevelStyle := last (look? l) (.default l) changes

end Change

/-- What is read off a builder, and only changed to what a change tells about it, is what was told
    last. -/
theorem read_after {α : Type} (read : Builder → α) {told : Change → Option α}
    (h : ∀ b c, read (change b c) = (told c).getD (read b)) (changes : List Change) :
    read (after changes) = Change.last told (read {}) changes := by
  induction changes using List.reverseRecOn with
  | nil => rfl
  | append_singleton changes c ih =>
    rw [after, List.foldl_concat, h, Change.last_concat, ← ih]
    rfl

theorem layout_after (changes : List Change) : (after changes).layout = Change.names changes :=
  read_after Builder.layout (fun b c => by cases c <;> rfl) changes

theorem target_after (changes : List Change) : (after changes).target = Change.goal changes :=
  read_after (fun b => b.target) (fun b c => by cases c <;> rfl) changes

theorem get?_after (changes : List Change) (name : Text) :
    (after changes).fields.get? name = Change.specified? changes name := by
  refine read_after (fun b => b.fields.get? name) (fun b c => ?_) changes
  cases c with
  | field f =>
    simp only [change, field, Fields.get?_put, Change.field?]
    split <;> rfl
  | _ => rfl

theorem levels_after (changes : List Change) (l : Level) :
    (after changes).levels l = Change.look changes l := by
  refine read_after (fun b => b.levels l) (fun b c => ?_) changes
  cases c with
  | levelStyle l' look =>
    simp only [change, levelStyle, LevelStyles.set, Change.look?]
    split <;> rfl
  | _ => rfl

/-! ## Faults -/

/-- A layout whose names are all different and have fields. -/
structure Sound (field? : Text → Option Field) (names : List Text) : Prop where
  nodup : names.Nodup
  specified : ∀ name ∈ names, field? name ≠ none

/-- The first fault of a layout: a name after a part of it that is sound. -/
inductive FirstFault (field? : Text → Option Field) : List Text → SettingsError → Prop
  | duplicate {before after : List Text} {name : Text} (hsound : Sound field? before)
      (hname : name ∈ before) : FirstFault field? (before ++ name :: after) (.duplicateField name)
  | missing {before after : List Text} {name : Text} (hsound : Sound field? before)
      (hname : field? name = none) : FirstFault field? (before ++ name :: after) (.missingField name)

variable {fields : Fields} {seen names : List Text}

theorem layoutFault?_nil_iff : layoutFault? fields [] names = none ↔ Sound fields.get? names := by
  rw [layoutFault?_eq_none_iff]
  constructor
  · rintro ⟨hnodup, hnames⟩
    exact ⟨hnodup, fun name hname => (hnames name hname).2⟩
  · rintro ⟨hnodup, hspecified⟩
    exact ⟨hnodup, fun name hname => ⟨List.not_mem_nil, hspecified name hname⟩⟩

theorem layoutFault?_append (fields : Fields) (seen before after : List Text) :
    layoutFault? fields seen (before ++ after) =
      (layoutFault? fields seen before).or
        (layoutFault? fields (before.reverse ++ seen) after) := by
  induction before generalizing seen with
  | nil => rfl
  | cons name before ih =>
    simp only [List.cons_append, layoutFault?, ih, List.reverse_cons, List.append_assoc,
      List.nil_append]
    split_ifs <;> rfl

/-- A fault is found at the first name that makes the layout faulty. -/
theorem exists_of_layoutFault?_eq_some {fault : SettingsError}
    (h : layoutFault? fields seen names = some fault) :
    ∃ before name after, names = before ++ name :: after ∧
      layoutFault? fields seen before = none ∧
      layoutFault? fields (before.reverse ++ seen) [name] = some fault := by
  induction names generalizing seen with
  | nil => cases h
  | cons name names ih =>
    rw [← List.singleton_append, layoutFault?_append] at h
    cases hfirst : layoutFault? fields seen [name] with
    | some found =>
      rw [hfirst, Option.some_or] at h
      exact ⟨[], name, names, rfl, rfl, hfirst.trans h⟩
    | none =>
      rw [hfirst, Option.none_or] at h
      obtain ⟨before, name', after, rfl, hbefore, hfault⟩ := ih h
      refine ⟨name :: before, name', after, rfl, ?_, ?_⟩
      · rw [← List.singleton_append, layoutFault?_append, hfirst, Option.none_or, hbefore]
      · rwa [List.reverse_cons, List.append_assoc]

/-- The fault that is found in a layout is the first one. -/
theorem layoutFault?_eq_some_iff {fault : SettingsError} :
    layoutFault? fields [] names = some fault ↔ FirstFault fields.get? names fault := by
  have hfault (before after : List Text) (name : Text) (hbefore : Sound fields.get? before) :
      layoutFault? fields [] (before ++ name :: after) =
        layoutFault? fields before.reverse (name :: after) := by
    rw [layoutFault?_append, layoutFault?_nil_iff.mpr hbefore, Option.none_or, List.append_nil]
  constructor
  · intro h
    obtain ⟨before, name, after, rfl, hbefore, hname⟩ := exists_of_layoutFault?_eq_some h
    have hsound := layoutFault?_nil_iff.mp hbefore
    simp only [layoutFault?, List.append_nil, List.mem_reverse] at hname
    split at hname
    · next hmem =>
      cases hname
      exact .duplicate hsound hmem
    · split at hname
      · next hmissing =>
        cases hname
        exact .missing hsound hmissing
      · cases hname
  · intro h
    cases h with
    | duplicate hsound hname =>
      rw [hfault _ _ _ hsound, layoutFault?, if_pos (List.mem_reverse.mpr hname)]
    | @missing before after name hsound hname =>
      have hfresh : name ∉ before := fun hmem => hsound.specified name hmem hname
      rw [hfault _ _ _ hsound, layoutFault?, if_neg (mt List.mem_reverse.mp hfresh), if_pos hname]

theorem targetFault?_eq_some_iff {target : Target} {fault : SettingsError} :
    targetFault? target = some fault ↔ target = .file [] ∧ fault = .missingLogFile := by
  unfold targetFault?
  split
  · simp [eq_comm]
  · next hpath => exact ⟨nofun, fun h => absurd h.1 hpath⟩

/-! ## Building -/

/-- Building reports the first fault of the layout, or else that of the target. -/
theorem build_eq_error_iff {b : Builder} {fault : SettingsError} :
    b.build = .error fault ↔ FirstFault b.fields.get? b.layout fault ∨
      Sound b.fields.get? b.layout ∧ b.target = .file [] ∧ fault = .missingLogFile := by
  rw [← layoutFault?_eq_some_iff, ← layoutFault?_nil_iff, ← targetFault?_eq_some_iff,
    ← Option.or_eq_some_iff, build, Option.orElse_eq_orElse, Option.orElse_eq_or]
  split
  · next found hfound => simp [hfound]
  · next hnone => simp [hnone]

theorem exists_build_eq_ok_iff {b : Builder} :
    (∃ s, b.build = .ok s) ↔ Sound b.fields.get? b.layout ∧ b.target ≠ .file [] := by
  constructor
  · rintro ⟨s, hbuild⟩
    obtain ⟨-, hlayout, htarget⟩ := build_eq_ok hbuild
    refine ⟨layoutFault?_nil_iff.mp hlayout, fun hpath => ?_⟩
    rw [hpath] at htarget
    cases htarget
  · rintro ⟨hsound, htarget⟩
    cases hbuild : b.build with
    | ok s => exact ⟨s, rfl⟩
    | error fault =>
      rcases build_eq_error_iff.mp hbuild with hfirst | ⟨-, hpath, -⟩
      · have hfault := layoutFault?_eq_some_iff.mpr hfirst
        rw [layoutFault?_nil_iff.mpr hsound] at hfault
        cases hfault
      · exact absurd hpath htarget

/-- Whatever changes a builder went through, building fails with the first fault of the layout that
    was set last, or else because there is no path for a file. Without the check, the columns would
    have the names of the layout only if it has no fault. Built settings have the field that was
    given last for each name of the layout, in the order of the names, which are all different;
    they have the look that was given last for each level, and in every plan each name has the
    width of its own column. -/
theorem build_after (changes : List Change) :
    let names := Change.names changes
    let field? := Change.specified? changes
    let goal := Change.goal changes
    (∀ fault, (after changes).build = .error fault ↔ FirstFault field? names fault ∨
      Sound field? names ∧ goal = .file [] ∧ fault = .missingLogFile) ∧
    ((∃ s, (after changes).build = .ok s) ↔ Sound field? names ∧ goal ≠ .file []) ∧
    ((after changes).assemble.layout.map Field.name = names ↔ Sound field? names) ∧
    ∀ s, (after changes).build = .ok s →
      s.layout.map some = names.map field? ∧ s.layout.map Field.name = names ∧ names.Nodup ∧
      (∀ l, s.levels l = Change.look changes l) ∧
      ∀ width gap, names.map (Plan.ofFields s.layout width gap).get? =
        (Plan.ofFields s.layout width gap).columns.map fun column => some column.2 := by
  intro names field? goal
  have hfield : (after changes).fields.get? = field? := funext (get?_after changes)
  have hlayout : (after changes).layout = names := layout_after changes
  have hgoal : (after changes).target = goal := target_after changes
  rw [← hfield, ← hlayout, ← hgoal]
  refine ⟨fun fault => build_eq_error_iff, exists_build_eq_ok_iff,
    names_assemble_iff.trans layoutFault?_nil_iff, fun s hbuild => ?_⟩
  have hnames := names_of_build hbuild
  have hnodup := nodup_of_build hbuild
  have hsound := (exists_build_eq_ok_iff.mp ⟨s, hbuild⟩).1
  obtain ⟨rfl, -, -⟩ := build_eq_ok hbuild
  refine ⟨Fields.map_some_pick hsound.nodup hsound.specified, hnames, hsound.nodup,
    levels_after changes, fun width gap => ?_⟩
  have hplanned := Plan.map_get?_ofFields hnodup width gap
  rw [← hnames, List.map_map]
  refine hplanned.trans ?_
  rw [← Plan.map_snd_columns, List.map_map]
  rfl

/-! Fields that are given twice or not used, a layout that is replaced, and a file without a path. -/

def adjusted : List Change :=
  [.field { name := "message".toList, width := 20 }, .layout ["trace".toList],
    .field { name := "note".toList }, .levelStyle .warn ⟨"caution".toList, []⟩,
    .field { name := "message".toList, width := 30 },
    .layout ["message".toList, "level".toList]]

theorem build_after_adjusted :
    (∃ s, (after adjusted).build = .ok s ∧ s.layout =
        [{ name := "message".toList, width := 30 }, { name := "level".toList, width := 5 }] ∧
      s.levels .warn = ⟨"caution".toList, []⟩) ∧
    (after (adjusted ++ [.target (.file [])])).build = .error .missingLogFile ∧
    (after (adjusted ++ [.layout ["level".toList, "trace".toList, "level".toList]])).build =
      .error (.missingField "trace".toList) := by
  have hsound : Sound (Change.specified? adjusted) (Change.names adjusted) :=
    ⟨by decide, by decide⟩
  refine ⟨?_, ?_, ?_⟩
  · obtain ⟨-, hok, -, hheld⟩ := build_after adjusted
    obtain ⟨s, hbuild⟩ := hok.mpr ⟨hsound, by decide⟩
    obtain ⟨hlayout, -, -, hlevels, -⟩ := hheld s hbuild
    exact ⟨s, hbuild, (Option.some_injective Field).list_map hlayout, hlevels .warn⟩
  · exact ((build_after _).1 .missingLogFile).mpr (.inr ⟨hsound, rfl, rfl⟩)
  · refine ((build_after _).1 (.missingField "trace".toList)).mpr (.inl ?_)
    have hbefore : Sound (Change.specified? adjusted) ["level".toList] := ⟨by decide, by decide⟩
    exact FirstFault.missing hbefore (by decide)

end Builder

end LogLine
