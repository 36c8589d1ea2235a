-- SUMMARY: Settings of a logger, and the builder that puts them together.
import LogLine.Calendar.Format
import LogLine.Config.Choice
import LogLine.Layout.Column

/-!
# Settings

Settings are built once and then only read. A builder starts from defaults for
everything, takes changes, and is checked as a whole at the end: the layout has
to name specified fields, each once, and a file target has to name a file.
-/

namespace LogLine

/-! ## Levels -/

/-- How a level looks: the text that names it, and a template for the fields of its lines. -/
structure LevelStyle where
  text : Text
  style : Text
deriving DecidableEq, Repr

namespace LevelStyle

/-- A template that puts the field into a scope. -/
def template (spec : String) : Text :=
  "@\x7b".toList ++ spec.toList ++ ' ' :: placeholder "text".toList ++ ['}']

/-- The look of a level unless it is set. -/
def default (l : Level) : LevelStyle :=
  ⟨l.name, match l with
    | .error => template "fg:red,bold"
    | .warn => template "fg:yellow,bold"
    | .info => template "fg:blue"
    | .debug => template "fg:cyan"
    | .trace => template "faint"⟩

end LevelStyle

abbrev LevelStyles := Level → LevelStyle

def LevelStyles.set (levels : LevelStyles) (l : Level) (look : LevelStyle) : LevelStyles :=
  fun l' => if l' = l then look else levels l'

/-! ## Fields -/

/-- The specified fields, each name once. -/
abbrev Fields := List Field

namespace Fields

/-- The fields that are specified from the start. -/
def default : Fields :=
  [{ name := "date-time".toList, width := 10, align := .right },
    { name := "thread-name".toList, width := 12 },
    { name := "thread-id".toList, width := 4, align := .right },
    { name := "level".toList, width := 5 },
    { name := "short-name".toList, width := 12 },
    { name := "name".toList, width := 24 },
    { name := "message".toList },
    { name := "markers".toList, width := 10 }]

def get? (fields : Fields) (name : Text) : Option Field := fields.find? (·.name = name)

/-- The fields that are left when the one with a name is taken out. -/
def without (fields : Fields) (name : Text) : Fields := fields.filter (·.name ≠ name)

/-- Specifies a field, in place of one with its name. -/
def put (fields : Fields) (f : Field) : Fields := f :: fields.without f.name

/-- Takes out the fields with the given names, in their order. What one name took is not there for
    the names after it, and a name that finds no field is passed over. -/
def pick : Fields → List Text → List Field
  | _, [] => []
  | fields, name :: names => (fields.get? name).toList ++ pick (fields.without name) names

end Fields

/-! ## Settings -/

/-- What settings hold besides the layout. -/
structure Options where
  mode : OutputMode := .auto
  format : LineFormat := .tty
  level : Threshold := .upTo .info
  /-- Whether every field is put into the template of the event's level. -/
  styleAsLevel : Bool := false
  /-- The cells between two columns. -/
  gap : Nat := 1
  /-- The width of a line; zero to ask the terminal. -/
  width : Nat := 0
  fallbackWidth : Nat := 80
  ellipsis : Text := ['…']
  /-- A template for the arguments of a message. -/
  parameterStyle : Option Text :=
    some ("@\x7bbold ".toList ++ placeholder "arg".toList ++ ['}'])
  target : Target := .stderr
  levels : LevelStyles := .default
  date : DateFormat := .elapsed
  styles : StyleSheet := {}

structure Settings extends Options where
  /-- The columns of a line, in order. -/
  layout : List Field

namespace Settings

/-- The way in which templates are evaluated. -/
def expression (s : Settings) (hyphen : SoftHyphen) : Expression :=
  { resolver := s.styles.resolve, ellipsis := s.ellipsis, hyphen }

end Settings

/-! ## Building -/

/-- Settings being put together. -/
structure Builder extends Options where
  /-- The names of the columns, in order. -/
  layout : List Text := ["level".toList, "name".toList, "message".toList]
  /-- The fields that the layout may name. -/
  fields : Fields := .default

namespace Builder

def field (b : Builder) (f : Field) : Builder := { b with fields := b.fields.put f }

def levelStyle (b : Builder) (l : Level) (look : LevelStyle) : Builder :=
  { b with levels := b.levels.set l look }

/-- Registers a named style. -/
def style (b : Builder) (name spec : Text) : Builder :=
  { b with styles := b.styles.register name spec }

/-- The first fault of a layout: a name that came before, or one without a field. -/
def layoutFault? (fields : Fields) : (seen : List Text) → List Text → Option SettingsError
  | _, [] => none
  | seen, name :: names =>
    if name ∈ seen then some (.duplicateField name)
    else if fields.get? name = none then some (.missingField name)
    else layoutFault? fields (name :: seen) names

def targetFault? : Target → Option SettingsError
  | .file [] => some .missingLogFile
  | _ => none

/-- The settings, unchecked. -/
def assemble (b : Builder) : Settings := { b.toOptions with layout := b.fields.pick b.layout }

/-- Checks the settings and puts them together. -/
def build (b : Builder) : Except SettingsError Settings :=
  match layoutFault? b.fields [] b.layout <|> targetFault? b.target with
  | some fault => .error fault
  | none => .ok b.assemble

end Builder

/-- The settings without any changes. -/
def Settings.default : Settings := ({} : Builder).assemble

end LogLine
