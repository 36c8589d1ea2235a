-- SUMMARY: What is known of the layout of settings that were built.
import LogLine.Config.Settings
import Mathlib.Data.List.Basic

/-!
# Built settings

Building checks the names of the layout from the first to the last, and then takes the
fields out one name after another. Taking out passes over names that find nothing, so it
keeps all of them exactly if no name repeats and every name has a field, which is what the
check finds out. Settings that were built have exactly the named columns, in order, and no
name twice.
-/

namespace LogLine

namespace Fields

/-- The field found for a name has this name. -/
theorem name_of_get? {fields : Fields} {name : Text} {f : Field}
    (h : fields.get? name = some f) : f.name = name := by
  have hfound := List.find?_some h
  simpa using hfound

/-! ## Taking out -/

theorem get?_without (fields : Fields) (name n : Text) :
    (fields.without name).get? n = if n = name then none else fields.get? n := by
  rw [get?, without, List.find?_filter]
  split
  · next h => simp [h]
  · next h =>
    have hkept : ∀ f : Field, decide (f.name ≠ name ∧ f.name = n) = decide (f.name = n) := by
      intro f
      exact decide_eq_decide.mpr ⟨And.right, fun hf => ⟨fun hname => h (hf.symm.trans hname), hf⟩⟩
    simp [get?, hkept]

/-- Names that do not repeat take what each of them finds by itself. -/
theorem pick_eq_filterMap {names : List Text} (h : names.Nodup) (fields : Fields) :
    fields.pick names = names.filterMap fields.get? := by
  induction names generalizing fields with
  | nil => rfl
  | cons name names ih =>
    obtain ⟨hname, hnames⟩ := List.nodup_cons.mp h
    have hleft : ∀ n ∈ names, (fields.without name).get? n = fields.get? n := by
      intro n hn
      have hne : n ≠ name := fun heq => hname (heq ▸ hn)
      rw [get?_without, if_neg hne]
    rw [pick, ih hnames, List.filterMap_congr hleft]
    cases hfield : fields.get? name with
    | none => rw [List.filterMap_cons_none hfield]; rfl
    | some f => rw [List.filterMap_cons_some hfield]; rfl

/-- A field that is taken out is the one that its name finds, and this name was asked for. -/
theorem of_mem_pick {fields : Fields} {names : List Text} {f : Field}
    (h : f ∈ fields.pick names) : f.name ∈ names ∧ fields.get? f.name = some f := by
  induction names generalizing fields with
  | nil => cases h
  | cons name names ih =>
    rcases List.mem_append.mp h with h | h
    · have hfield : fields.get? name = some f := Option.mem_toList.mp h
      rw [name_of_get? hfield]
      exact ⟨List.mem_cons_self, hfield⟩
    · obtain ⟨hmem, hfield⟩ := ih h
      rw [get?_without] at hfield
      split at hfield
      · cases hfield
      · exact ⟨List.mem_cons_of_mem name hmem, hfield⟩

/-- Nothing is taken out twice, however often a name is asked for. -/
theorem nodup_pick (fields : Fields) (names : List Text) :
    ((fields.pick names).map Field.name).Nodup := by
  induction names generalizing fields with
  | nil => exact List.nodup_nil
  | cons name names ih =>
    rw [pick]
    cases hfield : fields.get? name with
    | none => exact ih (fields.without name)
    | some f =>
      refine List.nodup_cons.mpr ⟨fun hmem => ?_, ih (fields.without name)⟩
      obtain ⟨f', hf', heq⟩ := List.mem_map.mp hmem
      have hname : f'.name = name := heq.trans (name_of_get? hfield)
      have hleft := (of_mem_pick hf').2
      rw [get?_without, if_pos hname] at hleft
      cases hleft

example : Fields.default.pick ["level".toList, "level".toList] =
    [{ name := "level".toList, width := 5 }] := by decide

/-- If no name repeats and each finds a field, what is known of these fields is known of those
    that are taken out, name by name. -/
theorem map_pick {α : Type} {fields : Fields} {names : List Text} (hnodup : names.Nodup)
    {read : Field → α} {known : Text → α}
    (h : ∀ name ∈ names, (fields.get? name).map read = some (known name)) :
    (fields.pick names).map read = names.map known := by
  rw [pick_eq_filterMap hnodup, List.map_filterMap, List.filterMap_congr h, List.filterMap_eq_map']

/-- Names that do not repeat and have fields take all of these, in their order. -/
theorem map_some_pick {fields : Fields} {names : List Text} (hnodup : names.Nodup)
    (h : ∀ name ∈ names, fields.get? name ≠ none) :
    (fields.pick names).map some = names.map fields.get? := by
  refine map_pick hnodup fun name hname => ?_
  obtain ⟨f, hf⟩ := Option.ne_none_iff_exists'.mp (h name hname)
  rw [hf, Option.map_some]

/-- All names are kept exactly if none repeats and each has a field. -/
theorem map_name_pick_iff {fields : Fields} {names : List Text} :
    (fields.pick names).map Field.name = names ↔
      names.Nodup ∧ ∀ name ∈ names, fields.get? name ≠ none := by
  constructor
  · intro h
    refine ⟨h ▸ nodup_pick fields names, fun name hname => ?_⟩
    rw [← h] at hname
    obtain ⟨f, hf, rfl⟩ := List.mem_map.mp hname
    rw [(of_mem_pick hf).2]
    exact Option.some_ne_none f
  · rintro ⟨hnodup, h⟩
    have hnames : (fields.pick names).map Field.name = names.map id := by
      refine map_pick hnodup fun name hname => ?_
      obtain ⟨f, hf⟩ := Option.ne_none_iff_exists'.mp (h name hname)
      rw [hf, Option.map_some, name_of_get? hf, id]
    rwa [List.map_id] at hnames

end Fields

namespace Builder

/-- A layout without a fault has different names, none of them seen before, and a field for each
    of them. -/
theorem layoutFault?_eq_none_iff {fields : Fields} {seen names : List Text} :
    layoutFault? fields seen names = none ↔
      names.Nodup ∧ ∀ name ∈ names, name ∉ seen ∧ fields.get? name ≠ none := by
  induction names generalizing seen with
  | nil => simp [layoutFault?]
  | cons name names ih =>
    simp only [layoutFault?]
    split
    · next hseen => simp [hseen]
    · next hunseen =>
      split
      · next hmissing => simp [hmissing]
      · next hfound =>
        rw [ih, List.nodup_cons, List.forall_mem_cons]
        constructor
        · rintro ⟨hnodup, hnames⟩
          refine ⟨⟨fun hmem => (hnames name hmem).1 List.mem_cons_self, hnodup⟩,
            ⟨hunseen, hfound⟩, fun n hn => ?_⟩
          exact ⟨fun hmem => (hnames n hn).1 (List.mem_cons_of_mem name hmem), (hnames n hn).2⟩
        · rintro ⟨⟨hfresh, hnodup⟩, -, hnames⟩
          refine ⟨hnodup, fun n hn => ⟨fun hmem => ?_, (hnames n hn).2⟩⟩
          rcases List.mem_cons.mp hmem with rfl | hmem
          · exact hfresh hn
          · exact (hnames n hn).1 hmem

variable {b : Builder} {s : Settings}

theorem build_eq_ok (h : b.build = .ok s) :
    s = b.assemble ∧ layoutFault? b.fields [] b.layout = none ∧ targetFault? b.target = none := by
  unfold build at h
  split at h
  · cases h
  · next hfault =>
    rw [Option.orElse_eq_orElse, Option.orElse_eq_or, Option.or_eq_none_iff] at hfault
    injection h with hs
    exact ⟨hs.symm, hfault.1, hfault.2⟩

/-- Putting settings together keeps the names of the layout exactly if checking them found no
    fault. -/
theorem names_assemble_iff :
    b.assemble.layout.map Field.name = b.layout ↔ layoutFault? b.fields [] b.layout = none := by
  rw [layoutFault?_eq_none_iff]
  refine Fields.map_name_pick_iff.trans (and_congr_right fun _ => forall₂_congr fun name _ => ?_)
  exact (and_iff_right List.not_mem_nil).symm

/-- Built settings have the columns that the builder named, in order. -/
theorem names_of_build (h : b.build = .ok s) : s.layout.map Field.name = b.layout := by
  obtain ⟨rfl, hlayout, -⟩ := build_eq_ok h
  exact names_assemble_iff.mpr hlayout

/-- No two columns of built settings have the same name. -/
theorem nodup_of_build (h : b.build = .ok s) : (s.layout.map Field.name).Nodup := by
  obtain ⟨rfl, -, -⟩ := build_eq_ok h
  exact Fields.nodup_pick b.fields b.layout

end Builder

end LogLine
