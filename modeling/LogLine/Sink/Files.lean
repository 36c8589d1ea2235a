-- SUMMARY: A tree of files and directories, and what can be done with it.
import LogLine.Config.Error
import LogLine.Sink.Path
import LogLine.Text.Utf8

/-!
# Files

A file tree holds directories and files with their bytes. Paths are followed
segment by segment from its root, absolute ones from a directory of their own;
on the way every segment has to be a directory. Above the root there are
directories without end, of which nothing is known but what is put there.
-/

namespace LogLine

/-- What a path can lead to. -/
inductive FileNode where
  | directory
  | file (bytes : List UInt8)
deriving DecidableEq, Repr

/-- Directories and files, each with the segments that lead to it. The root, what is above it and
    where absolute paths start are not listed. -/
structure FileTree where
  nodes : List (List Text × FileNode) := []
deriving DecidableEq, Repr

namespace FileTree

/-- Whether a place is the root, or above it. -/
def isAbove (place : List Text) : Bool := place.all (· == ['.', '.'])

/-- The place where absolute paths start. -/
def top : List Text := [['/']]

def node? (tree : FileTree) (place : List Text) : Option FileNode :=
  if isAbove place ∨ place = top then some .directory else tree.nodes.lookup place

/-- The place of the directory that a place lies in. -/
def parent (place : List Text) : List Text :=
  if place = top then top
  else if isAbove place then place ++ [['.', '.']]
  else place.dropLast

def put (tree : FileTree) (place : List Text) (node : FileNode) : FileTree :=
  ⟨(place, node) :: tree.nodes.filter (·.1 ≠ place)⟩

/-- Follows segments from a place. What the last one leads to need not exist. -/
def follow (tree : FileTree) (place : List Text) : List Text → Except SystemError (List Text)
  | [] => .ok place
  | segment :: rest =>
    match tree.node? place with
    | none => .error .notFound
    | some (.file _) => .error .notADirectory
    | some .directory =>
      if Path.isIdle segment then follow tree place rest
      else if segment = ['.', '.'] then follow tree (parent place) rest
      else if 255 < segment.utf8.length then .error .nameTooLong
      else follow tree (place ++ [segment]) rest

/-- What is wrong with a path whatever the files are. -/
def pathFault? (path : Text) : Option SystemError :=
  if path.contains '\x00' then some .invalidPath
  else if path = [] then some .notFound
  else if 4095 < path.utf8.length then some .nameTooLong
  else none

/-- Follows segments of a path from where the path starts. -/
def walk (tree : FileTree) (path : Text) (segments : List Text) :
    Except SystemError (List Text) :=
  match pathFault? path with
  | some e => .error e
  | none => tree.follow (if path.head? = some '/' then top else []) segments

def place (tree : FileTree) (path : Text) : Except SystemError (List Text) :=
  tree.walk path (path.split '/')

def isDirectory (tree : FileTree) (path : Text) : Bool :=
  match tree.place path with
  | .ok place => tree.node? place == some .directory
  | .error _ => false

def read (tree : FileTree) (path : Text) : Except SystemError (List UInt8) := do
  match tree.node? (← tree.place path) with
  | none => .error .notFound
  | some .directory => .error .isADirectory
  | some (.file bytes) => .ok bytes

def readText (tree : FileTree) (path : Text) : Except SystemError Text := do
  match Text.ofUtf8? (← tree.read path) with
  | some t => .ok t
  | none => .error .invalidText

/-- The segments of a path without the empty ones that slashes at its end leave. -/
def named (path : Text) : List Text := ((path.split '/').reverse.dropWhile (· == [])).reverse

/-- The place of a file that may be about to be made. A path that ends with a slash can only be one
    of a directory, whatever its last segment is. -/
def filePlace (tree : FileTree) (path : Text) : Except SystemError (List Text) := do
  if path.getLast? = some '/' then
    let _ ← tree.walk path ((named path).dropLast ++ [['.']])
    .error .isADirectory
  let place ← tree.place path
  if tree.node? place = some .directory then .error .isADirectory else .ok place

/-- Replaces the contents of a file, which need not exist. -/
def write (tree : FileTree) (path : Text) (bytes : List UInt8) : Except SystemError FileTree := do
  return tree.put (← tree.filePlace path) (.file bytes)

/-- Adds bytes at the end of a file, which need not exist. -/
def append (tree : FileTree) (path : Text) (bytes : List UInt8) :
    Except SystemError FileTree := do
  let place ← tree.filePlace path
  match tree.node? place with
  | some (.file old) => return tree.put place (.file (old ++ bytes))
  | _ => return tree.put place (.file bytes)

/-- Makes a directory in one that exists. Slashes at the end of the path do not matter. -/
def makeDirectory (tree : FileTree) (path : Text) : Except SystemError FileTree := do
  let place ← tree.walk path (named path)
  match tree.node? place with
  | some _ => .error .alreadyExists
  | none => .ok (tree.put place .directory)

/-! ## Several changes -/

/-- Changes of a tree one after the other, up to one that fails: why it did, if one did, and the
    tree with the changes before it. -/
abbrev Changes := FileTree → Option SystemError × FileTree

/-- A single change, which is made as a whole or not at all. -/
def change (f : FileTree → Except SystemError FileTree) : Changes := fun tree =>
  match f tree with
  | .ok tree => (none, tree)
  | .error e => (some e, tree)

/-- Changes, and further ones unless they failed. -/
def andThen (first second : Changes) : Changes := fun tree =>
  match first tree with
  | (none, tree) => second tree
  | failed => failed

/-- Makes a directory unless there is one. -/
def ensureDirectory (path : Text) : Changes := fun tree =>
  match tree.makeDirectory path with
  | .ok tree => (none, tree)
  | .error e => (if tree.isDirectory path then none else some e, tree)

/-- Makes a directory unless there is one, and those above it that are missing. `depth` bounds how
    many that are. -/
def makeDirectories : (depth : Nat) → (path : Text) → Changes
  | _, [] => fun tree => (none, tree)
  | depth, path => fun tree =>
    match tree.makeDirectory path, depth, Path.parent? path with
    | .error .notFound, depth + 1, some parent =>
      andThen (makeDirectories depth parent) (ensureDirectory path) tree
    | _, _, _ => ensureDirectory path tree

/-- Opens a file for lines: makes it, and the directories above it, where they are missing. -/
def openLog (path : Text) : Changes :=
  let file := change (·.append path [])
  match Path.parent? path with
  | some parent => andThen (makeDirectories path.length parent) file
  | none => file

end FileTree

end LogLine
