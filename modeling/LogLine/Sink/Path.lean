-- SUMMARY: Paths of files: their segments, parents, and the home directory.
import LogLine.Text.Basic

/-!
# Paths

A path is a text whose segments are separated by slashes. Empty segments and
single dots do not matter, except a slash or a dot at the very beginning.
-/

namespace LogLine.Path

/-- Whether a segment does not matter. -/
def isIdle (segment : Text) : Bool := segment == [] || segment == ['.']

/-- The segments without the idle ones at their end. -/
def trimEnd (segments : List Text) : List Text := (segments.reverse.dropWhile isIdle).reverse

/-- The path of the directory that a path lies in; empty for a path of one segment. The root and
    the empty path lie nowhere. -/
def parent? (path : Text) : Option Text :=
  match path.split '/' with
  | [] => none
  | first :: rest =>
    match trimEnd rest with
    | [] => if first = [] then none else some []
    | segments =>
      let above := first :: trimEnd segments.dropLast
      some (if above = [[]] then ['/'] else Text.join ['/'] above)

def below (directory path : Text) : Text :=
  match directory.getLast? with
  | none | some '/' => directory ++ path
  | some _ => directory ++ '/' :: path

/-- Puts the home directory, if there is one, in the place of a first segment that is a tilde. -/
def expandHome (home : Option Text) (path : Text) : Text :=
  match path.split '/', home with
  | ['~'] :: rest, some home =>
    below home (Text.join ['/'] (trimEnd (rest.dropWhile isIdle)))
  | _, _ => path

end LogLine.Path
