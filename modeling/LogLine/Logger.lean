-- SUMMARY: Loggers, and the program that has one of them installed.
import LogLine.Config.Document
import LogLine.Render.Line
import LogLine.Sink.Files
import LogLine.Sink.Stream

/-!
# Loggers

A logger renders the events that its threshold admits and writes their lines to
its sink. A record has no pattern, only a message that is already formatted, so
its braces are literal. Whether its level is enabled is asked before it becomes
an event, and the event has to pass the threshold again.

A program has at most one logger installed. Its facade passes records on to
that logger as far as the threshold set at installation admits them, and so the
library's own reports reach the logger too.
-/

namespace LogLine

/-! ## Loggers -/

/-- The event of a record with a formatted message. -/
def Event.ofRecord (l : Level) (logger message : Text) : Event :=
  { level := l, logger, pattern := Message.patternOf message }

namespace Renderer

def isEnabled (r : Renderer) (l : Level) : Bool := r.settings.level.admits l

/-- The line of an event that the threshold does not exclude, if it is rendered, and what outlives
    it. An excluded event changes nothing. -/
def renderAdmitted (r : Renderer) (scene : Scene) (e : Event) (s : RenderState) :
    Option Line × RenderState :=
  if r.settings.level.excludes e.level then (none, s)
  else
    let (outcome, s) := r.render scene e s
    (outcome.line?, s)

/-- The line of a record whose level is enabled, and what outlives it. -/
def renderRecord (r : Renderer) (scene : Scene) (l : Level) (logger message : Text)
    (s : RenderState) : Option Line × RenderState :=
  if r.isEnabled l then r.renderAdmitted scene (.ofRecord l logger message) s else (none, s)

end Renderer

/-- A logger: a renderer, what outlives its lines, and the sink they go to. -/
structure Logger where
  renderer : Renderer
  state : RenderState := {}
  sink : Sink

/-- What can be done with a logger. -/
inductive LogCall where
  | event (e : Event)
  | record (level : Level) (logger message : Text)
  | enabled (level : Level)
  | flush
deriving DecidableEq, Repr

namespace Logger

/-- The logger once its renderer is done with something: a line, if there is one, is written. -/
def finish (l : Logger) : Option Line × RenderState → Logger
  | (line, state) => { l with state, sink := line.elim l.sink l.sink.write }

/-- The logger after a call. Only logging changes anything. -/
def call (l : Logger) (scene : Scene) : LogCall → Logger
  | .event e => l.finish (l.renderer.renderAdmitted scene e l.state)
  | .record level logger message =>
    l.finish (l.renderer.renderRecord scene level logger message l.state)
  | .enabled _ => l
  | .flush => l

end Logger

/-! ## Programs -/

/-- A logger that is installed: its renderer, what outlives its lines, and where they go. -/
structure Installed where
  renderer : Renderer
  state : RenderState := {}
  target : Target

/-- A program with its standard streams and its files. -/
structure Program where
  home : Option Text := none
  files : FileTree := {}
  stdout : Text := []
  stderr : Text := []
  logger : Option Installed := none
  /-- What the facade passes on. -/
  threshold : Threshold := .off

namespace Program

/-- Opens the target of lines, and gives it with the home directory put in. Directories that were
    made on the way stay even if the file cannot be opened. -/
def openTarget (p : Program) : Target → Program × Except SettingsError Target
  | .file path =>
    let path := Path.expandHome p.home path
    let (failure, files) := FileTree.openLog path p.files
    ({ p with files }, failure.elim (.ok (.file path)) fun cause => .error (.file path cause))
  | target => (p, .ok target)

def write (p : Program) (target : Target) (l : Line) : Program :=
  match target with
  | .stderr => { p with stderr := p.stderr ++ l.record }
  | .stdout => { p with stdout := p.stdout ++ l.record }
  | .file path =>
    match p.files.append path l.record.utf8 with
    | .ok files => { p with files }
    | .error _ => p

/-- Installs a logger with the given settings. The target is opened even if there is a logger
    already. -/
def install (p : Program) (settings : Settings) (hyphen : SoftHyphen) :
    Program × Option SettingsError :=
  match p.openTarget settings.target with
  | (p, .error e) => (p, some e)
  | (p, .ok target) =>
    if p.logger.isSome then (p, some .alreadyInstalled)
    else
      ({ p with
        logger := some { renderer := { settings, hyphen }, target }
        threshold := settings.level }, none)

/-- Sends a record through the facade. What the library reports while it renders would come back
    here too, but the guard refuses it, so it is left out. -/
def send (p : Program) (scene : Scene) (level : Level) (logger message : Text) : Program :=
  match p.logger with
  | some installed =>
    if p.threshold.admits level then
      let (line, state) :=
        installed.renderer.renderRecord scene level logger message installed.state
      let p := { p with logger := some { installed with state } }
      line.elim p (p.write installed.target)
    else p
  | none => p

/-- Sends the library's reports through the facade, each under the name of what reports. -/
def report (p : Program) (scene : Scene) (nameOf : Reporter → Text) (journal : List Diagnostic) :
    Program :=
  journal.foldl (fun p d => p.send scene d.level (nameOf d.reporter) d.text) p

end Program

end LogLine
