-- SUMMARY: Sessions: threads that enter rendering, keep guards, drop them and render.
import LogLine.Render.Line

/-!
# Sessions

Rendering is not the only thing that can hold a guard: any code may enter on its
thread, keep what it was given, and drop it later. A session follows a program
whose threads do so in any order, and tells at every step who was let in. A
refused entry keeps nothing, so there is nothing to drop.
-/

namespace LogLine

/-- A step of one of a program's threads. -/
inductive SessionStep where
  /-- Tries to enter on a thread, and keeps the guard if one is given. -/
  | enter (t : Thread)
  /-- Drops what the entry of the given number keeps. -/
  | drop (entry : Nat)
  /-- Tries to enter on a thread, and breaks off. A guard that is passed on the way is dropped: the
      one that was just given, and what the entries with the given numbers keep for the thread. -/
  | unwind (t : Thread) (passed : List Nat := [])
  /-- Renders an event on a thread. -/
  | render (r : Renderer) (scene : Scene) (e : Event)

/-- What a step gives back. -/
inductive SessionReply where
  /-- Whether a guard was given or dropped. -/
  | guard (given : Bool)
  | rendering (outcome : Outcome)
deriving DecidableEq, Repr

/-- A program's threads with the guards that they keep. -/
structure Session where
  state : RenderState := {}
  /-- The thread of every entry so far, and whether its guard is alive. -/
  entries : List (Thread × Bool) := []

namespace Session

def isActive (s : Session) (t : Thread) : Bool := s.state.guards.isActive t

def withGuards (s : Session) (guards : Guards) : Session :=
  { s with state := { s.state with guards } }

/-- Tries to enter on a thread. -/
def enter (s : Session) (t : Thread) : SessionReply × Session :=
  let (given, guards) := s.state.guards.enter t
  (.guard given, { s.withGuards guards with entries := s.entries ++ [(t, given)] })

/-- Drops what an entry keeps, if it keeps anything. -/
def drop (s : Session) (entry : Nat) : SessionReply × Session :=
  match s.entries[entry]? with
  | some (t, true) =>
    (.guard true,
      { s.withGuards (s.state.guards.leave t) with entries := s.entries.set entry (t, false) })
  | _ => (.guard false, s)

/-- Whether an entry was made on a thread. -/
def isEntryOf (s : Session) (t : Thread) (entry : Nat) : Bool :=
  s.entries[entry]?.any (·.1.key = t.key)

/-- Tries to enter on a thread, and breaks off past what some entries of the thread keep. -/
def unwind (s : Session) (t : Thread) (passed : List Nat) : SessionReply × Session :=
  let (given, guards) := s.state.guards.enter t
  (.guard given,
    (passed.filter (s.isEntryOf t)).foldl (fun s entry => (s.drop entry).2)
      (s.withGuards (if given then guards.leave t else guards)))

def step (s : Session) : SessionStep → SessionReply × Session
  | .enter t => s.enter t
  | .drop entry => s.drop entry
  | .unwind t passed => s.unwind t passed
  | .render r scene e =>
    let (outcome, state) := r.render scene e s.state
    (.rendering outcome, { s with state })

def after (s : Session) (steps : List SessionStep) : Session :=
  steps.foldl (fun s step => (s.step step).2) s

end Session

end LogLine
