-- SUMMARY: Threads: their numbers, and the guard against rendering inside rendering.
import LogLine.Text.Basic

/-!
# Threads

A thread has a name, unless it is left without one, and gets a number when it
first asks for it. A guard marks a thread as rendering a line; while it lives
the thread cannot enter again, so whatever is logged on the way to a line is
dropped instead of rendered inside it.
-/

namespace LogLine

/-- A thread. Threads are told apart by their keys. -/
structure Thread where
  key : Nat
  name : Option Text := none
deriving DecidableEq, Repr

def Thread.shownName (t : Thread) : Text := t.name.getD "unnamed".toList

/-! ## Numbers -/

/-- The threads that have a number, in the order in which they first asked for it. -/
structure ThreadNumbers where
  asked : List Nat := []
deriving DecidableEq, Repr

namespace ThreadNumbers

/-- The numbers after a thread asked for its own. -/
def ask (n : ThreadNumbers) (t : Thread) : ThreadNumbers :=
  if t.key ∈ n.asked then n else ⟨n.asked ++ [t.key]⟩

/-- The number of a thread, counted from one in the order of asking. -/
def number (n : ThreadNumbers) (t : Thread) : Nat := (n.ask t).asked.idxOf t.key + 1

end ThreadNumbers

/-! ## Guards -/

/-- For every thread, whether it is rendering. -/
structure Guards where
  active : Nat → Bool := fun _ => false

namespace Guards

def isActive (g : Guards) (t : Thread) : Bool := g.active t.key

/-- The guards with the mark of a thread set or taken away. -/
def mark (g : Guards) (t : Thread) (b : Bool) : Guards :=
  ⟨fun key => if key = t.key then b else g.active key⟩

/-- Tries to enter rendering on a thread: whether a guard was given, and the guards afterwards. The
    mark is set in either case. -/
def enter (g : Guards) (t : Thread) : Bool × Guards := (!g.isActive t, g.mark t true)

/-- Drops a thread's guard. -/
def leave (g : Guards) (t : Thread) : Guards := g.mark t false

/-- A mark that is there already can be set again. -/
theorem mark_of_isActive {g : Guards} {t : Thread} (h : g.isActive t = true) :
    g.mark t true = g := by
  have active : (fun key => if key = t.key then true else g.active key) = g.active := by
    funext key
    split
    · next hkey => rw [hkey]; exact h.symm
    · rfl
  exact congrArg Guards.mk active

/-- A refused thread leaves everything as it is. -/
theorem enter_of_isActive {g : Guards} {t : Thread} (h : g.isActive t = true) :
    g.enter t = (false, g) := by
  rw [enter, h, mark_of_isActive h]
  rfl

/-- A thread that is not rendering is let in, and marked. -/
theorem enter_of_not_isActive {g : Guards} {t : Thread} (h : g.isActive t = false) :
    g.enter t = (true, g.mark t true) := by
  rw [enter, h]
  rfl

/-- A thread with its mark set is rendering; marks of other threads do not matter. -/
theorem isActive_mark (g : Guards) (t t' : Thread) (b : Bool) :
    (g.mark t b).isActive t' = if t'.key = t.key then b else g.isActive t' := rfl

end Guards

end LogLine
