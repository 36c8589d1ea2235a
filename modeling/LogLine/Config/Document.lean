-- SUMMARY: Settings in a YAML document.
import LogLine.Config.Settings
import LogLine.Yaml.Value

/-!
# Settings documents

A document has sections for the output, the levels, the fields and the styles,
all of them optional. Its form is checked first; then its entries are applied
to the default settings one after the other, the names within a section in
their order.
-/

namespace LogLine

open Yaml (Document Node)

/-! ## Sections -/

structure OutputSection where
  mode : Option Text := none
  format : Option Text := none
  level : Option Text := none
  styleAsLevel : Option Bool := none
  gap : Option Nat := none
  width : Option Nat := none
  fallbackWidth : Option Nat := none
  ellipsis : Option Text := none
  parameterStyle : Option Text := none
  target : Option Text := none
  logFile : Option Text := none
  layout : Option (List Text) := none
deriving DecidableEq, Repr

/-- What is said about a level. -/
structure LevelSection where
  text : Option Text := none
  style : Option Text := none
deriving DecidableEq, Repr

/-- What is said about a field. The format and the parts of a date count for the date field. -/
structure FieldSection where
  width : Option Nat := none
  align : Option Alignment := none
  style : Option Text := none
  decoration : Option Text := none
  format : Option Text := none
  parts : Option Text := none
deriving DecidableEq, Repr

/-- A document of settings. Names are in order, each once within a section. -/
structure SettingsDocument where
  output : OutputSection := {}
  levels : List (Text × LevelSection) := []
  fields : List (Text × FieldSection) := []
  styles : List (Text × Text) := []
deriving DecidableEq, Repr

/-! ## Reading -/

open Yaml.Document in
def OutputSection.read? : Of OutputSection := fun d node => do
  let e ← record? (["mode", "format", "level", "style-as-level", "gap", "width", "fallback-width",
    "ellipsis", "parameter-style", "target", "log-file", "layout"].map String.toList) d node
  let text := member? (optional? text?) d e
  let nat := member? (optional? nat?) d e
  return {
    mode := ← text "mode"
    format := ← text "format"
    level := ← text "level"
    styleAsLevel := ← member? (optional? bool?) d e "style-as-level"
    gap := ← nat "gap"
    width := ← nat "width"
    fallbackWidth := ← nat "fallback-width"
    ellipsis := ← text "ellipsis"
    parameterStyle := ← text "parameter-style"
    target := ← text "target"
    logFile := ← text "log-file"
    layout := ← member? (optional? (list? text?)) d e "layout" }

open Yaml.Document in
/-- Reads what is said about a level. -/
def LevelSection.read? : Of LevelSection := fun d node => do
  let e ← record? (["text", "style"].map String.toList) d node
  let text := member? (optional? text?) d e
  return { text := ← text "text", style := ← text "style" }

open Yaml.Document in
/-- Reads what is said about a field. -/
def FieldSection.read? : Of FieldSection := fun d node => do
  let e ← record? (["width", "align", "style", "decoration", "format", "type"].map String.toList)
    d node
  let text := member? (optional? text?) d e
  return {
    width := ← member? (optional? nat?) d e "width"
    align := ← member? (optional? (choice? Alignment.ofName?)) d e "align"
    style := ← text "style"
    decoration := ← text "decoration"
    format := ← text "format"
    parts := ← text "type" }

namespace SettingsDocument

open Yaml.Document in
def read? : Of SettingsDocument := fun d node => do
  let e ← record? (["output", "levels", "fields", "styles"].map String.toList) d node
  let given := fun {α : Type} (f : Of α) => member? (fun d node => (f d node).map some) d e
  return {
    output := (← given OutputSection.read? "output").getD {}
    levels := (← given (table? LevelSection.read?) "levels").getD []
    fields := (← given (table? FieldSection.read?) "fields").getD []
    styles := (← given (table? text?) "styles").getD [] }

/-- The document in a text, or `none` where the text is none. A text without a document stands for
    the empty one. -/
def ofText? (t : Text) : Option SettingsDocument :=
  if Text.trim t = [] then some {}
  else do
    match ← Document.ofText? t with
    | some d => read? d d.root
    | none => some {}

/-! ## Applying -/

def applyOutput (o : OutputSection) (b : Builder) : Except SettingsError Builder := do
  let mode ← o.mode.elim (.ok b.mode) OutputMode.ofText
  let format ← o.format.elim (.ok b.format) LineFormat.ofText
  let level ← o.level.elim (.ok b.level) fun t =>
    (Threshold.ofText? t).elim (.error (.unknownLevel t)) .ok
  let target ← Target.ofText o.target o.logFile
  return { b with
    mode, format, level, target
    styleAsLevel := o.styleAsLevel.getD b.styleAsLevel
    gap := o.gap.getD b.gap
    width := o.width.getD b.width
    fallbackWidth := o.fallbackWidth.getD b.fallbackWidth
    ellipsis := o.ellipsis.getD b.ellipsis
    parameterStyle := o.parameterStyle.elim b.parameterStyle fun t => (some t).filter (· ≠ [])
    layout := o.layout.getD b.layout }

/-- Applies what is said about a level. What is left out gets the level's default again. -/
def applyLevel (b : Builder) (entry : Text × LevelSection) : Except SettingsError Builder :=
  match Level.ofText? entry.1 with
  | none => .error (.unknownLevel entry.1)
  | some l =>
    let look := LevelStyle.default l
    .ok (b.levelStyle l ⟨entry.2.text.getD look.text, entry.2.style.getD look.style⟩)

/-- The report about parts of a date that are not known. -/
def unknownParts (t : Text) : Diagnostic :=
  ⟨.warn, .settings, DateParts.unknownMessage t ++ "; using date and time".toList⟩

/-- The parts of a date that a section names, date and time unless it names others. -/
def dateParts (s : FieldSection) : DateParts × List Diagnostic :=
  match s.parts with
  | none => (.dateAndTime, [])
  | some t => (DateParts.ofText? t).elim (.dateAndTime, [unknownParts t]) (·, [])

/-- Applies the date format that the section of the date field gives. -/
def applyDate (b : Builder) (name : Text) (s : FieldSection) : Builder × List Diagnostic :=
  match FieldKind.ofName name, s.format with
  | .dateTime, some format =>
    let (parts, faults) := dateParts s
    let (date, more) := DateFormat.ofText format parts
    ({ b with date }, faults ++ more)
  | _, _ => (b, [])

/-- Applies what is said about a field; what is left out stays as it is. -/
def applyField (b : Builder) (entry : Text × FieldSection) : Builder × List Diagnostic :=
  let (b, journal) := applyDate b entry.1 entry.2
  let f := (b.fields.get? entry.1).getD { name := entry.1 }
  let s := entry.2
  let f := { f with
    width := s.width.getD f.width
    align := s.align.getD f.align
    style := s.style.getD f.style
    decoration := s.decoration.getD f.decoration }
  (b.field f, journal)

/-- Applies the fields one after the other. -/
def applyFields (b : Builder) (entries : List (Text × FieldSection)) : Builder × List Diagnostic :=
  entries.foldl
    (fun (b, journal) entry =>
      let (b, more) := applyField b entry
      (b, journal ++ more))
    (b, [])

/-- The builder after a document was applied to the defaults, and the reports on the way. -/
def toBuilder (doc : SettingsDocument) : Except SettingsError (Builder × List Diagnostic) := do
  let b ← applyOutput doc.output {}
  let b ← doc.levels.foldlM applyLevel b
  let (b, journal) := applyFields b doc.fields
  return (doc.styles.foldl (fun b s => b.style s.1 s.2) b, journal)

end SettingsDocument

/-- The settings in a YAML text, and the reports on the way. -/
def Settings.ofYaml (t : Text) : Except SettingsError Settings × List Diagnostic :=
  match SettingsDocument.ofText? t with
  | none => (.error .malformed, [])
  | some doc =>
    match doc.toBuilder with
    | .error e => (.error e, [])
    | .ok (b, journal) => (b.build, journal)

end LogLine
