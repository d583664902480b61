import Metrology.Text.Pieces

/-!
# Paths

A path is written as names with slashes between them. Empty names and the name `.` say nothing and
are dropped when a path is shown; the name `..` is kept.
-/

namespace Metrology.Path

/-- The names on a path one after another, without empty ones. -/
def steps (path : String) : List String :=
  (Text.fullPieces (· == '/') path.toList).map String.ofList

/-- The names on a path that say something. -/
def names (path : String) : List String := (steps path).filter fun p => p != "."

/-- The names that are followed to open what stands at a path. A slash at its end asks for a
directory, as the name `.` does. -/
def toOpen (path : String) : List String :=
  if path.endsWith "/" then steps path ++ ["."] else steps path

/-- The names that are followed to create a file at a path. With a slash at its end the path names
a directory, whatever its last name stands for. -/
def toCreate (path : String) : List String :=
  if path.endsWith "/" then (steps path).dropLast ++ ["."] else steps path

/-- The slashes that a path which starts at the top of all files begins with. Exactly two have a
meaning of their own; any other number says the same as one. -/
def top (path : String) : String :=
  match path.toList with
  | '/' :: '/' :: '/' :: _ => "/"
  | '/' :: '/' :: _ => "//"
  | '/' :: _ => "/"
  | _ => ""

/-- The path as it is shown in messages. -/
def shown (path : String) : String :=
  let s := top path ++ String.intercalate "/" (names path)
  if s.isEmpty then "." else s

/-- Does the path start at the top of all files? -/
def isAbsolute (path : String) : Bool := !(top path).isEmpty

end Metrology.Path
