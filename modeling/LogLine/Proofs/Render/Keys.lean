-- SUMMARY: Which keys of a JSON line are repeated, and what readers find for a key.
import LogLine.Proofs.Config.Building
import LogLine.Proofs.Json.Reading
import LogLine.Proofs.Render.Showing
import Mathlib.Data.List.Nodup

/-!
# Keys of JSON lines

The members of a JSON line come from the layout's fields and from the event, whose keys are
`pattern` and one for each argument. Neither of the two repeats a key, but a field may have a
key of the event for its name: building checks the names of fields against each other only.
Readers that take the first member of a key find every field then, and readers that take the
last one find the pattern and every argument.
-/

namespace LogLine

theorem Text.ofNat_injective : Function.Injective Text.ofNat := by
  intro m n h
  have hvalue := congrArg (Nat.ofDigitChars 10 · 0) h
  simpa only [Text.ofNat, Nat.ofDigitChars_ten_toDigits] using hvalue

theorem Renderer.argKey_injective : Function.Injective argKey :=
  fun _ _ h => Text.ofNat_injective (List.append_cancel_left h)

/-! ## Looking keys up -/

section Lookup

variable {α β : Type} [BEq α] [LawfulBEq α] {members : List (α × β)}

theorem lookup_of_nodup_keys (h : (members.map Prod.fst).Nodup) {m : α × β} (hm : m ∈ members) :
    members.lookup m.1 = some m.2 := by
  obtain ⟨before, after, rfl⟩ := List.append_of_mem hm
  refine List.lookup_eq_some_iff.mpr ⟨before, after, rfl, fun p hp => bne_iff_ne.mpr ?_⟩
  rw [List.map_append, List.nodup_append] at h
  exact (h.2.2 p.1 (List.mem_map_of_mem hp) m.1 (by simp)).symm

theorem lookup_reverse_of_nodup_keys (h : (members.map Prod.fst).Nodup) {m : α × β}
    (hm : m ∈ members) : members.reverse.lookup m.1 = some m.2 := by
  refine lookup_of_nodup_keys ?_ (List.mem_reverse.mpr hm)
  rw [List.map_reverse]
  exact List.pairwise_reverse.mpr (h.imp Ne.symm)

variable {xs ys : List (α × β)} {key : α}

theorem lookup_append_of_mem (h : (xs.map Prod.fst).Nodup) {m : α × β} (hm : m ∈ xs) :
    (xs ++ ys).lookup m.1 = some m.2 := by
  rw [List.lookup_append, lookup_of_nodup_keys h hm, Option.some_or]

theorem lookup_append_of_not_mem (h : key ∉ xs.map Prod.fst) :
    (xs ++ ys).lookup key = ys.lookup key := by
  have hnone : xs.lookup key = none := by
    refine Option.eq_none_iff_forall_not_mem.mpr fun value hvalue => h ?_
    obtain ⟨before, after, rfl, -⟩ := List.lookup_eq_some_iff.mp hvalue
    simp
  rw [List.lookup_append, hnone, Option.none_or]

theorem lookup_reverse_append_of_mem (h : (ys.map Prod.fst).Nodup) {m : α × β} (hm : m ∈ ys) :
    (xs ++ ys).reverse.lookup m.1 = some m.2 := by
  rw [List.reverse_append, List.lookup_append, lookup_reverse_of_nodup_keys h hm, Option.some_or]

theorem lookup_reverse_append_of_not_mem (h : key ∉ ys.map Prod.fst) :
    (xs ++ ys).reverse.lookup key = xs.reverse.lookup key := by
  rw [List.reverse_append]
  refine lookup_append_of_not_mem fun hmem => h ?_
  rwa [List.map_reverse, List.mem_reverse] at hmem

end Lookup

/-! ## Members -/

/-- The members that a JSON line has for an event itself. -/
def Event.ownMembers (e : Event) : List (Text × Text) :=
  ("pattern".toList, e.pattern) :: e.args.zipIdx.map fun (arg, i) => (Renderer.argKey i, arg)

/-- The keys that a JSON line has for an event itself. -/
def Event.ownKeys (e : Event) : List Text :=
  "pattern".toList :: (List.range e.args.length).map Renderer.argKey

theorem Event.keys_ownMembers (e : Event) : e.ownMembers.map Prod.fst = e.ownKeys := by
  have hkeys : (e.args.zipIdx.map fun (arg, i) => (Renderer.argKey i, arg)).map Prod.fst =
      (e.args.zipIdx.map Prod.snd).map Renderer.argKey := by
    rw [List.map_map, List.map_map]
    rfl
  rw [ownMembers, ownKeys, List.map_cons, hkeys, List.zipIdx_map_snd, List.range_eq_range']

/-- An event repeats none of its own keys. -/
theorem Event.nodup_ownKeys (e : Event) : e.ownKeys.Nodup := by
  refine List.nodup_cons.mpr ⟨fun hmem => ?_, ?_⟩
  · obtain ⟨i, -, hkey⟩ := List.mem_map.mp hmem
    exact absurd (congrArg List.head? hkey) (by simp [Renderer.argKey])
  · exact List.Nodup.map Renderer.argKey_injective List.nodup_range

namespace Renderer

/-- The members that a JSON line has for the fields of the layout. -/
def fieldMembers (r : Renderer) (value : Field → Text) : List (Text × Text) :=
  r.settings.layout.map fun f => (f.name, value f)

variable {r : Renderer} {scene : Scene} {e : Event} {s : RenderState}

theorem keys_fieldMembers (value : Field → Text) :
    (r.fieldMembers value).map Prod.fst = r.settings.layout.map Field.name := by
  rw [fieldMembers, List.map_map]
  rfl

theorem members_map (e : Event) (value : Field → Text) :
    r.members e (r.settings.layout.map value) = r.fieldMembers value ++ e.ownMembers := by
  rw [members, List.zip_map']
  rfl

/-- On a thread that is not rendering, an event becomes the JSON object of the fields' members and
    its own members, with built settings. A key stands in it once for the layout and once for the
    event, so no key is repeated exactly if no field has a key of the event for its name. For any
    other key, readers find its value whether they take the first member or the last one; with a
    repeated key the first is the field's and the last is the event's. -/
theorem repeated_keys {b : Builder} (hbuild : b.build = .ok r.settings)
    (hformat : r.settings.format = .json) (hends : r.formatter.Ends e)
    (hidle : s.guards.isActive scene.thread = false) :
    ∃ (l : Line) (value : Field → Text), (r.render scene e s).1 = .line l ∧
      (∀ f, r.plain? scene e s.numbers f.kind = some (value f)) ∧
      let members := r.fieldMembers value ++ e.ownMembers
      let keys := members.map Prod.fst
      Json.read l.text = some members ∧
      (∀ key, keys.count key =
        (if key ∈ b.layout then 1 else 0) + (if key ∈ e.ownKeys then 1 else 0)) ∧
      (keys.Nodup ↔ ∀ name ∈ b.layout, name ∉ e.ownKeys) ∧
      (∀ m ∈ members, ¬ (m.1 ∈ b.layout ∧ m.1 ∈ e.ownKeys) →
        members.lookup m.1 = some m.2 ∧ members.reverse.lookup m.1 = some m.2) ∧
      (∀ m ∈ r.fieldMembers value, members.lookup m.1 = some m.2) ∧
      ∀ m ∈ e.ownMembers, members.reverse.lookup m.1 = some m.2 := by
  obtain ⟨value, hvalue, hline⟩ := exists_outcome_json scene hends hformat
    (r.plan scene.terminal s) s.numbers
  obtain ⟨_, -, hrender⟩ := render_of_not_isActive (r := r) hidle e
  have hnames : (r.fieldMembers value).map Prod.fst = b.layout :=
    (keys_fieldMembers value).trans (Builder.names_of_build hbuild)
  have hfields : ((r.fieldMembers value).map Prod.fst).Nodup := by
    rw [keys_fieldMembers]
    exact Builder.nodup_of_build hbuild
  have hown : (e.ownMembers.map Prod.fst).Nodup := by
    rw [e.keys_ownMembers]
    exact e.nodup_ownKeys
  refine ⟨_, value, by rw [hrender, hline], hvalue, ?_, fun key => ?_, ?_, ?_,
    fun m => lookup_append_of_mem hfields, fun m => lookup_reverse_append_of_mem hown⟩
  · rw [jsonLine, members_map, Json.read_object]
  · rw [List.map_append, List.count_append, hfields.count, hown.count, hnames, e.keys_ownMembers]
  · rw [List.map_append, List.nodup_append', hnames, e.keys_ownMembers]
    rw [hnames] at hfields
    exact ⟨fun h name hname hkey => h.2.2 hname hkey,
      fun h => ⟨hfields, e.nodup_ownKeys, fun name hname hkey => h name hname hkey⟩⟩
  · intro m hm hclear
    rw [← hnames, ← e.keys_ownMembers] at hclear
    rcases List.mem_append.mp hm with hm | hm
    · have hother : m.1 ∉ e.ownMembers.map Prod.fst :=
        fun hkey => hclear ⟨List.mem_map_of_mem hm, hkey⟩
      exact ⟨lookup_append_of_mem hfields hm, (lookup_reverse_append_of_not_mem hother).trans
        (lookup_reverse_of_nodup_keys hfields hm)⟩
    · have hother : m.1 ∉ (r.fieldMembers value).map Prod.fst :=
        fun hname => hclear ⟨hname, List.mem_map_of_mem hm⟩
      exact ⟨(lookup_append_of_not_mem hother).trans (lookup_of_nodup_keys hown hm),
        lookup_reverse_append_of_mem hown hm⟩

/-! A layout with a field that has the key of an argument for its name, and one with a field that
has the key of the pattern. -/

def numbered : Builder :=
  { format := .json, layout := ["arg0".toList, "message".toList]
    fields := Fields.default.put { name := "arg0".toList } }

def diskFull : Event :=
  { level := .warn, logger := "disk".toList, pattern := "\x7b\x7d full".toList,
    args := ["/var".toList] }

theorem repeated_keys_argument :
    ∃ (l : Line) (members : List (Text × Text)),
      (Renderer.render ⟨numbered.assemble, .braces, .latin1⟩ (sceneOf 80) diskFull {}).1 = .line l ∧
      Json.read l.text = some members ∧ (members.map Prod.fst).count "arg0".toList = 2 ∧
      members.lookup "arg0".toList = some [] ∧
      members.reverse.lookup "arg0".toList = some "/var".toList := by
  obtain ⟨l, value, hline, hvalue, hread, hcount, -, -, hfirst, hlast⟩ :=
    @repeated_keys ⟨numbered.assemble, .braces, .latin1⟩ (sceneOf 80) diskFull {} numbered rfl rfl
      (ends_braces rfl) rfl
  have hempty : value { name := "arg0".toList } = [] :=
    (Option.some.inj (hvalue { name := "arg0".toList })).symm
  refine ⟨l, _, hline, hread, hcount "arg0".toList, ?_, ?_⟩
  · exact hempty ▸ hfirst ("arg0".toList, value { name := "arg0".toList }) List.mem_cons_self
  · exact hlast ("arg0".toList, "/var".toList) (List.mem_cons_of_mem _ List.mem_cons_self)

def patterned : Builder :=
  { format := .json, layout := ["pattern".toList]
    fields := Fields.default.put { name := "pattern".toList } }

def blank : Event := { level := .info, logger := "app".toList, pattern := [] }

/-- Settings may be built whose JSON lines repeat a key. -/
theorem exists_repeated_key :
    patterned.build = .ok patterned.assemble ∧ patterned.format = .json ∧
      ∃ (l : Line) (members : List (Text × Text)),
        (Renderer.render ⟨patterned.assemble, .braces, .latin1⟩ (sceneOf 80) blank {}).1 =
          .line l ∧
        Json.read l.text = some members ∧ ¬ (members.map Prod.fst).Nodup := by
  refine ⟨rfl, rfl, ⟨"\x7b\"pattern\":\"\",\"pattern\":\"\"\x7d".toList, none⟩,
    [("pattern".toList, []), ("pattern".toList, [])], ?_, ?_, ?_⟩
  · decide +kernel
  · decide +kernel
  · simp

end Renderer

end LogLine
