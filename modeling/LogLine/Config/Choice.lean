-- SUMMARY: The choices that settings make by name: escape sequences, line format and target.
import LogLine.Config.Error
import LogLine.Text.Blank

/-!
# Choices

Whether lines carry escape sequences, what form they have, and where they go.
Each is chosen by a name in any case, whatever blanks are around it.
-/

namespace LogLine

/-! ## Escape sequences -/

/-- What is known about the terminal that lines are written to. -/
structure Terminal where
  /-- The width in cells, if it can be told. -/
  width : Option Nat
  /-- Whether it understands escape sequences. -/
  ansi : Bool
deriving DecidableEq, Repr

/-- The width that lines are laid out for: the configured one, else the terminal's, else the
    fallback. Zero counts as unknown. -/
def Terminal.effectiveWidth (t : Terminal) (configured fallback : Nat) : Nat :=
  if 0 < configured then configured
  else
    match t.width with
    | some width => if 1 ≤ width then width else fallback
    | none => fallback

/-- Whether lines carry escape sequences. -/
inductive OutputMode where
  /-- As the terminal understands them. -/
  | auto
  | ansi
  | plain
deriving DecidableEq, Repr

namespace OutputMode

/-- Whether lines for a terminal carry escape sequences. -/
def usesAnsi (m : OutputMode) (t : Terminal) : Bool :=
  match m with
  | .auto => t.ansi
  | .ansi => true
  | .plain => false

def name : OutputMode → Text
  | .auto => "auto".toList
  | .ansi => "ansi".toList
  | .plain => "plain".toList

def ofText (t : Text) : Except SettingsError OutputMode :=
  let name := Text.lower (Text.trim t)
  if name = "auto".toList then .ok .auto
  else if name = "ansi".toList ∨ name = "force-ansi".toList then .ok .ansi
  else if name = "plain".toList ∨ name = "text".toList then .ok .plain
  else .error (.unknownMode t)

end OutputMode

/-! ## Line format -/

inductive LineFormat where
  /-- Columns that fill the width of a terminal. -/
  | tty
  /-- A JSON object. -/
  | json
deriving DecidableEq, Repr

namespace LineFormat

def name : LineFormat → Text
  | .tty => "tty".toList
  | .json => "json".toList

def ofText (t : Text) : Except SettingsError LineFormat :=
  let name := Text.lower (Text.trim t)
  if name = "tty".toList ∨ name = "text".toList then .ok .tty
  else if name = "json".toList then .ok .json
  else .error (.unknownFormat t)

end LineFormat

/-! ## Target -/

/-- Where lines go. -/
inductive Target where
  | stderr
  | stdout
  | file (path : Text)
deriving DecidableEq, Repr

/-- The target of a name, which may need the path of a file. Nothing at all stands for the standard
    error stream, and a blank path for none. -/
def Target.ofText (name path : Option Text) : Except SettingsError Target :=
  match name with
  | none => .ok .stderr
  | some t =>
    let name := Text.lower (Text.trim t)
    if name = "stderr".toList then .ok .stderr
    else if name = "stdout".toList then .ok .stdout
    else if name = "file".toList then
      match (path.map Text.trim).filter (· ≠ []) with
      | some path => .ok (.file path)
      | none => .error .missingLogFile
    else .error (.unknownTarget t)

end LogLine
