import PagePress.Json.Basic

/-!
# Paths as text

A path is a text of names between slashes.

* `segments` are the pieces between slashes, empty ones included;
* `components` are the steps that a path consists of;
* `join` puts a path below a directory, and an absolute path in place of it;
* `parent?` is the directory that holds what a path names.
-/

namespace PagePress

namespace Files

namespace Path

/-- The pieces of a text between slashes. -/
def pieces : List Char → List (List Char)
  | [] => [[]]
  | c :: cs =>
    if c = '/' then [] :: pieces cs
    else match pieces cs with
      | [] => [[c]]
      | p :: ps => (c :: p) :: ps

/-- The names between the slashes of a path; an empty one stands between two slashes. -/
def segments (path : String) : List String := (pieces path.toList).map String.ofList

/-- Whether a path starts at the root of all files. -/
def isAbsolute (path : String) : Bool := path.toList.head? == some '/'

/-- A step on a path. -/
inductive Component where
  /-- To the root of all files, at the start of an absolute path. -/
  | root
  /-- The point that a path starts with; any other point is no step. -/
  | here
  /-- Up to what holds the place. -/
  | up
  /-- Down to what has a name. -/
  | down (name : String)
deriving DecidableEq, Repr

/-- The step that a piece between slashes stands for, if it stands for one at any place. -/
def Component.ofSegment? (s : String) : Option Component :=
  if s = "" ∨ s = "." then none
  else if s = ".." then some .up
  else some (.down s)

/-- The steps of a path. -/
def components (path : String) : List Component :=
  (if isAbsolute path then [.root]
    else if (segments path).head? = some "." then [.here]
    else [])
    ++ (segments path).filterMap Component.ofSegment?

/-- Whether a step does not lead out of a directory. -/
def Component.staysBelow : Component → Bool
  | .here | .down _ => true
  | .root | .up => false

/-- A path without the slashes that it starts with. -/
def trimLeading (path : String) : String := String.ofList (path.toList.dropWhile (· = '/'))

/-- A text without the slashes that it ends with. -/
def trimTrailing (path : String) : String :=
  String.ofList (path.toList.reverse.dropWhile (· = '/')).reverse

/-- The path of something below a directory; an absolute path stands for itself. -/
def join (dir path : String) : String :=
  if isAbsolute path then path
  else if dir.isEmpty || dir.toList.getLast? == some '/' then dir ++ path
  else dir ++ "/" ++ path

/-- The names on a path, without empty ones and those that stay in place. -/
def names (path : String) : List String :=
  (segments path).filter fun s => s != "" && s != "."

/-- The pieces of a path up to the last one that names something.  A point in front counts. -/
def trimPieces (ps : List String) : List String :=
  match ps with
  | [] => []
  | first :: rest => first :: (rest.reverse.dropWhile fun s => s = "" || s = ".").reverse

/-- The directory that holds what a path names; nothing holds the root or an empty path. -/
def parent? (path : String) : Option String :=
  match trimPieces (segments path) with
  | [] | [""] => none
  | ps =>
    match trimPieces ps.dropLast with
    | [""] => some "/"
    | up => some ("/".intercalate up)

end Path

end Files

end PagePress
