-- SUMMARY: What the levels and the fields of a settings document leave in the settings.
import LogLine.Config.Document
import LogLine.Proofs.Config.Validation
import LogLine.Proofs.Yaml.Entries

/-!
# Overrides

What a document says about a field is laid over the field's defaults, and fields it does not
mention stay as they are. Names of fields are taken as they are written, so no field is
mentioned twice. Levels may be written in any case, so two entries can mean one level; the
later of them starts from the level's defaults again, and what only the earlier one said is
lost.
-/

namespace LogLine

open Yaml.Document (Ordered)

/-! ## Sections over defaults -/

/-- The look of a level that a section gives. -/
def LevelSection.look (s : LevelSection) (l : Level) : LevelStyle :=
  ⟨s.text.getD (LevelStyle.default l).text, s.style.getD (LevelStyle.default l).style⟩

/-- A field with what a section says about it. -/
def FieldSection.onto (s : FieldSection) (f : Field) : Field :=
  { f with
    width := s.width.getD f.width
    align := s.align.getD f.align
    style := s.style.getD f.style
    decoration := s.decoration.getD f.decoration }

namespace SettingsDocument

/-- The entry that counts for a level: the last one whose name means it. -/
def lastSection? (entries : List (Text × LevelSection)) (l : Level) : Option LevelSection :=
  (entries.reverse.find? fun e => Level.ofText? e.1 = some l).map Prod.snd

theorem exists_of_bind_eq_ok {α β : Type} {x : Except SettingsError α}
    {f : α → Except SettingsError β} {b : β} (h : x >>= f = .ok b) :
    ∃ a, x = .ok a ∧ f a = .ok b := by
  cases x with
  | error e => cases h
  | ok a => exact ⟨a, rfl, h⟩

/-! ## Levels -/

theorem applyLevel_eq_ok {b b' : Builder} {e : Text × LevelSection}
    (h : applyLevel b e = .ok b') :
    ∃ l, Level.ofText? e.1 = some l ∧ b' = b.levelStyle l (e.2.look l) := by
  unfold applyLevel at h
  split at h
  · cases h
  · next l hl =>
    cases h
    exact ⟨l, hl, rfl⟩

theorem lastSection?_cons (e : Text × LevelSection) (entries : List (Text × LevelSection))
    (l : Level) :
    lastSection? (e :: entries) l =
      (lastSection? entries l).or (if Level.ofText? e.1 = some l then some e.2 else none) := by
  rw [lastSection?, List.reverse_cons, List.find?_append, Option.map_or, lastSection?]
  by_cases h : Level.ofText? e.1 = some l <;> simp [h]

/-- What the entries about levels leave: for each level the look that the last entry for it gives,
    and the fields as they were. An entry whose name means no level is not accepted. -/
theorem levels_foldlM {b b' : Builder} {entries : List (Text × LevelSection)}
    (h : entries.foldlM applyLevel b = .ok b') :
    (∀ l, b'.levels l = ((lastSection? entries l).map (·.look l)).getD (b.levels l)) ∧
    (∀ e ∈ entries, ∃ l, Level.ofText? e.1 = some l) ∧ b'.fields = b.fields := by
  induction entries generalizing b with
  | nil =>
    cases h
    exact ⟨fun l => rfl, nofun, rfl⟩
  | cons e entries ih =>
    rw [List.foldlM_cons] at h
    obtain ⟨first, hfirst, hrest⟩ := exists_of_bind_eq_ok h
    obtain ⟨l₀, hl₀, rfl⟩ := applyLevel_eq_ok hfirst
    obtain ⟨hlevels, hnamed, hfields⟩ := ih hrest
    refine ⟨fun l => ?_, List.forall_mem_cons.mpr ⟨⟨l₀, hl₀⟩, hnamed⟩, hfields⟩
    rw [hlevels l, lastSection?_cons, hl₀]
    -- a later entry for the level starts from its default, whatever this one left
    cases lastSection? entries l with
    | some later => rfl
    | none =>
      by_cases h : l = l₀
      · subst h
        simp [Builder.levelStyle, LevelStyles.set]
      · simp [Builder.levelStyle, LevelStyles.set, h, Ne.symm h]

/-! ## Fields -/

theorem applyDate_keeps (b : Builder) (name : Text) (s : FieldSection) :
    (applyDate b name s).1.fields = b.fields ∧ (applyDate b name s).1.levels = b.levels := by
  unfold applyDate
  split <;> exact ⟨rfl, rfl⟩

theorem levels_applyField (b : Builder) (e : Text × FieldSection) :
    (applyField b e).1.levels = b.levels := (applyDate_keeps b e.1 e.2).2

theorem get?_applyField (b : Builder) (e : Text × FieldSection) (name : Text) :
    (applyField b e).1.fields.get? name =
      if e.1 = name then some (e.2.onto ((b.fields.get? name).getD { name })) else
        b.fields.get? name := by
  have hname : ((b.fields.get? e.1).getD { name := e.1 }).name = e.1 := by
    cases hget : b.fields.get? e.1 with
    | none => rfl
    | some f => exact Fields.name_of_get? hget
  have hfield : (applyField b e).1.fields =
      b.fields.put (e.2.onto ((b.fields.get? e.1).getD { name := e.1 })) := by
    simp only [applyField, Builder.field, (applyDate_keeps b e.1 e.2).1]
    rfl
  have hkept : (e.2.onto ((b.fields.get? e.1).getD { name := e.1 })).name = e.1 := hname
  rw [hfield, Fields.get?_put, hkept]
  split
  · next heq => rw [heq]
  · rfl

theorem applyFields_fst (b : Builder) (entries : List (Text × FieldSection)) :
    (applyFields b entries).1 = entries.foldl (fun b e => (applyField b e).1) b :=
  (List.foldl_hom Prod.fst fun _ _ => rfl).symm

/-- What entries about different fields leave: each field with what its entry says, and the other
    fields and the levels as they were. -/
theorem fields_applyFields (b : Builder) {entries : List (Text × FieldSection)}
    (h : (entries.map Prod.fst).Nodup) :
    (∀ e ∈ entries, (applyFields b entries).1.fields.get? e.1 =
      some (e.2.onto ((b.fields.get? e.1).getD { name := e.1 }))) ∧
    (∀ name ∉ entries.map Prod.fst,
      (applyFields b entries).1.fields.get? name = b.fields.get? name) ∧
    (applyFields b entries).1.levels = b.levels := by
  simp only [applyFields_fst]
  induction entries generalizing b with
  | nil => exact ⟨nofun, fun _ _ => rfl, rfl⟩
  | cons first entries ih =>
    rw [List.map_cons, List.nodup_cons] at h
    obtain ⟨hsaid, hkept, hlevels⟩ := ih (applyField b first).1 h.2
    simp only [List.foldl_cons]
    refine ⟨List.forall_mem_cons.mpr ⟨?_, fun e he => ?_⟩, fun name hname => ?_, ?_⟩
    · rw [hkept _ h.1, get?_applyField, if_pos rfl]
    · have hother : first.1 ≠ e.1 := fun heq => h.1 (heq ▸ List.mem_map_of_mem he)
      rw [hsaid e he, get?_applyField, if_neg hother]
    · rw [List.map_cons, List.mem_cons, not_or] at hname
      rw [hkept name hname.2, get?_applyField, if_neg (Ne.symm hname.1)]
    · rw [hlevels, levels_applyField]

/-! ## Documents -/

theorem applyOutput_keeps {o : OutputSection} {b b' : Builder} (h : applyOutput o b = .ok b') :
    b'.fields = b.fields ∧ b'.levels = b.levels := by
  obtain ⟨mode, -, h⟩ := exists_of_bind_eq_ok h
  obtain ⟨format, -, h⟩ := exists_of_bind_eq_ok h
  obtain ⟨level, -, h⟩ := exists_of_bind_eq_ok h
  obtain ⟨target, -, h⟩ := exists_of_bind_eq_ok h
  cases h
  exact ⟨rfl, rfl⟩

theorem styles_foldl_keeps (styles : List (Text × Text)) (b : Builder) :
    (styles.foldl (fun b e => b.style e.1 e.2) b).fields = b.fields ∧
    (styles.foldl (fun b e => b.style e.1 e.2) b).levels = b.levels := by
  induction styles generalizing b with
  | nil => exact ⟨rfl, rfl⟩
  | cons e styles ih => exact ih (b.style e.1 e.2)

/-- Names within a section come in order, so none comes twice. -/
structure Sorted (doc : SettingsDocument) : Prop where
  levels : Ordered doc.levels
  fields : Ordered doc.fields

theorem sorted_of_read? {d : Yaml.Document} {node : Yaml.Node} {doc : SettingsDocument}
    (h : read? d node = some doc) : doc.Sorted := by
  simp only [read?, Option.bind_eq_bind, Option.bind_eq_some_iff] at h
  obtain ⟨e, -, output, -, levels, hlevels, fields, hfields, styles, -, h⟩ := h
  cases h
  constructor
  · rcases Yaml.Document.exists_of_member?_map_some hlevels with rfl | ⟨_, _, hread, rfl⟩
    · exact .nil
    · exact Yaml.Document.ordered_of_table? hread
  · rcases Yaml.Document.exists_of_member?_map_some hfields with rfl | ⟨_, _, hread, rfl⟩
    · exact .nil
    · exact Yaml.Document.ordered_of_table? hread

theorem sorted_of_ofText? {t : Text} {doc : SettingsDocument} (h : ofText? t = some doc) :
    doc.Sorted := by
  have hempty : ({} : SettingsDocument).Sorted := ⟨.nil, .nil⟩
  unfold ofText? at h
  split at h
  · cases h
    exact hempty
  · obtain ⟨d?, -, h⟩ := Option.bind_eq_some_iff.mp h
    cases d? with
    | some d => exact sorted_of_read? h
    | none =>
      cases h
      exact hempty

/-- What a document leaves in a builder: for each level the look that the last entry for it gives,
    or its default; each field that an entry is about with what the entry says, laid over its
    default if it has one, and all other fields by default. -/
theorem toBuilder_overrides {doc : SettingsDocument} (hsorted : doc.Sorted) {b : Builder}
    {journal : List Diagnostic} (h : doc.toBuilder = .ok (b, journal)) :
    (∀ e ∈ doc.levels, ∃ l, Level.ofText? e.1 = some l) ∧
    (∀ l, b.levels l = ((lastSection? doc.levels l).map (·.look l)).getD (.default l)) ∧
    (∀ e ∈ doc.fields, b.fields.get? e.1 =
      some (e.2.onto ((Fields.default.get? e.1).getD { name := e.1 }))) ∧
    ∀ name ∉ doc.fields.map Prod.fst, b.fields.get? name = Fields.default.get? name := by
  obtain ⟨first, houtput, h⟩ := exists_of_bind_eq_ok h
  obtain ⟨second, hsecond, h⟩ := exists_of_bind_eq_ok h
  have hb : doc.styles.foldl (fun b e => b.style e.1 e.2) (applyFields second doc.fields).1 = b :=
    congrArg Prod.fst (Except.ok.inj h)
  subst hb
  obtain ⟨hfields, hlevels⟩ := applyOutput_keeps houtput
  obtain ⟨hlooks, hnamed, hfields'⟩ := levels_foldlM hsecond
  obtain ⟨hsaid, hkept, hlevels'⟩ := fields_applyFields second hsorted.fields.nodup
  have hdefault : second.fields = Fields.default := hfields'.trans hfields
  rw [hdefault] at hsaid hkept
  obtain ⟨hstyled, hstyled'⟩ := styles_foldl_keeps doc.styles (applyFields second doc.fields).1
  refine ⟨hnamed, fun l => ?_, fun e he => ?_, fun name hname => ?_⟩
  · rw [hstyled', hlevels', hlooks l, hlevels]
  · rw [hstyled, hsaid e he]
  · rw [hstyled, hkept name hname]

end SettingsDocument

namespace Settings

open SettingsDocument (lastSection?)

theorem ofYaml_eq_ok {t : Text} {s : Settings} {journal : List Diagnostic}
    (h : ofYaml t = (.ok s, journal)) :
    ∃ doc b, SettingsDocument.ofText? t = some doc ∧ doc.toBuilder = .ok (b, journal) ∧
      b.build = .ok s := by
  unfold ofYaml at h
  split at h
  · cases h
  · next doc hdoc =>
    split at h
    · cases h
    · next b journal' hb =>
      obtain ⟨hs, rfl⟩ := Prod.mk.inj h
      exact ⟨doc, b, hdoc, hb, hs⟩

/-- A level has the look that the last entry for it gives. -/
theorem levels_ofYaml {t : Text} {s : Settings} {journal : List Diagnostic}
    {doc : SettingsDocument} (h : ofYaml t = (.ok s, journal))
    (hdoc : SettingsDocument.ofText? t = some doc) (l : Level) :
    s.levels l = ((lastSection? doc.levels l).map (·.look l)).getD (.default l) := by
  obtain ⟨doc', b, hdoc', hb, hbuild⟩ := ofYaml_eq_ok h
  cases Option.some.inj (hdoc.symm.trans hdoc')
  obtain ⟨-, hlevels, -, -⟩ :=
    SettingsDocument.toBuilder_overrides (SettingsDocument.sorted_of_ofText? hdoc) hb
  obtain ⟨rfl, -, -⟩ := Builder.build_eq_ok hbuild
  exact hlevels l

/-- What a document that is accepted says about a field is what the field has, and what it leaves
    out is by default. What it says about a level is what the level has if no later entry means
    the same level; of several such entries the last one counts, and what only the others say is
    lost. -/
theorem ofYaml_overrides {t : Text} {s : Settings} {journal : List Diagnostic}
    (h : ofYaml t = (.ok s, journal)) :
    ∃ doc b, SettingsDocument.ofText? t = some doc ∧ doc.toBuilder = .ok (b, journal) ∧
      b.build = .ok s ∧ doc.Sorted ∧
      (∀ e ∈ doc.levels, ∃ l, Level.ofText? e.1 = some l) ∧
      (∀ l, s.levels l = ((lastSection? doc.levels l).map (·.look l)).getD (.default l)) ∧
      (∀ e ∈ doc.fields, b.fields.get? e.1 =
        some (e.2.onto ((Fields.default.get? e.1).getD { name := e.1 }))) ∧
      (∀ name ∉ doc.fields.map Prod.fst, b.fields.get? name = Fields.default.get? name) ∧
      ∀ f ∈ s.layout, b.fields.get? f.name = some f := by
  obtain ⟨doc, b, hdoc, hb, hbuild⟩ := ofYaml_eq_ok h
  have hsorted := SettingsDocument.sorted_of_ofText? hdoc
  obtain ⟨hnamed, -, hsaid, hkept⟩ := SettingsDocument.toBuilder_overrides hsorted hb
  refine ⟨doc, b, hdoc, hb, hbuild, hsorted, hnamed, levels_ofYaml h hdoc, hsaid, hkept,
    fun f hf => ?_⟩
  obtain ⟨rfl, -, -⟩ := Builder.build_eq_ok hbuild
  exact (Fields.of_mem_pick hf).2

/-! Two entries that mean one level, each saying something else about it, and a field. -/

def twice : Text :=
  "levels: {WARN: {style: loud}, warn: {text: CAUTION}}\nfields: {level: {width: 9}}".toList

def twiceDocument : SettingsDocument :=
  { levels := [("WARN".toList, { style := some "loud".toList }),
      ("warn".toList, { text := some "CAUTION".toList })]
    fields := [("level".toList, { width := some 9 })] }

theorem ofText?_twice : SettingsDocument.ofText? twice = some twiceDocument := by decide +kernel

theorem exists_ofYaml_twice : ∃ s, ofYaml twice = (.ok s, []) := by
  have haccepted : (ofYaml twice).1.isOk = true ∧ (ofYaml twice).2 = [] := by
    rw [ofYaml, ofText?_twice]
    decide +kernel
  cases hresult : (ofYaml twice).1 with
  | ok s => exact ⟨s, Prod.ext hresult haccepted.2⟩
  | error e =>
    rw [hresult] at haccepted
    cases haccepted.1

theorem ofYaml_overrides_twice :
    ∃ s, ∃ b : Builder, ofYaml twice = (.ok s, []) ∧ b.build = .ok s ∧
      s.levels .warn = ⟨"CAUTION".toList, (LevelStyle.default .warn).style⟩ ∧
      s.levels .info = .default .info ∧
      b.fields.get? "level".toList = some { name := "level".toList, width := 9 } ∧
      b.fields.get? "name".toList = some { name := "name".toList, width := 24 } := by
  obtain ⟨s, hs⟩ := exists_ofYaml_twice
  obtain ⟨doc, b, hdoc, -, hbuild, -, -, hlevels, hsaid, hkept, -⟩ := ofYaml_overrides hs
  cases Option.some.inj (hdoc.symm.trans ofText?_twice)
  exact ⟨s, b, hs, hbuild, hlevels .warn, hlevels .info,
    hsaid ("level".toList, { width := some 9 }) (List.mem_singleton_self _),
    hkept "name".toList (by decide)⟩

/-- Some document gives a style to a level, and nothing else in it speaks of the style of this level
    or any other, but the level has another one. -/
theorem exists_undone_override :
    ∃ t doc s journal, SettingsDocument.ofText? t = some doc ∧ ofYaml t = (.ok s, journal) ∧
      ∃ before e after l style, doc.levels = before ++ e :: after ∧
        Level.ofText? e.1 = some l ∧ e.2.style = some style ∧
        (∀ e' ∈ before ++ after, e'.2.style = none) ∧ (s.levels l).style ≠ style := by
  obtain ⟨s, hs⟩ := exists_ofYaml_twice
  refine ⟨twice, twiceDocument, s, [], ofText?_twice, hs, [], _, _, .warn, "loud".toList, rfl,
    by decide, rfl, by decide, ?_⟩
  rw [levels_ofYaml hs ofText?_twice]
  decide

end Settings

end LogLine
