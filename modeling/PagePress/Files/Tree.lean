import PagePress.Files.Path

/-!
# A tree of files

`Files` is a picture of a directory tree and of the current directory in it.

* `Entry` is a file or a directory with named entries;
* `Files.find` follows a path, and says why it leads nowhere;
* `Files.readText` and `Files.list` read what a path names.
-/

namespace PagePress

namespace Files

/-- A file or a directory. -/
inductive Entry where
  /-- A file; its text is missing if its bytes are no text. -/
  | file (text : Option String)
  /-- A directory and what it holds by name. -/
  | directory (entries : List (String × Entry))
deriving Inhabited

/-- Why a path cannot be read. -/
inductive Fault where
  | missing
  | notADirectory
  | isADirectory
  | nameTooLong
  /-- The path holds the character that ends a name. -/
  | endMark
  | notText
deriving DecidableEq, Repr

/-- The text of a fault. -/
def Fault.message : Fault → String
  | .missing => "No such file or directory (os error 2)"
  | .notADirectory => "Not a directory (os error 20)"
  | .isADirectory => "Is a directory (os error 21)"
  | .nameTooLong => "File name too long (os error 36)"
  | .endMark => "file name contained an unexpected NUL byte"
  | .notText => "stream did not contain valid UTF-8"

namespace Entry

/-- The directory without entries. -/
def empty : Entry := .directory []

/-- The entries of a directory; a file has none. -/
def entries : Entry → List (String × Entry)
  | .file _ => []
  | .directory es => es

/-- Puts an entry under a path of names, making the directories on the way. -/
def put (new : Entry) : List String → Entry → Entry
  | [], _ => new
  | s :: rest, e =>
    .directory (Entries.put s (put new rest ((Entries.get? s e.entries).getD empty)) e.entries)

/-- Makes a directory under a path of names, unless there is one. -/
def makeDirectory : List String → Entry → Entry
  | [], e => .directory e.entries
  | s :: rest, e =>
    .directory
      (Entries.put s (makeDirectory rest ((Entries.get? s e.entries).getD empty)) e.entries)

/-- Removes what a path of names leads to. -/
def remove : List String → Entry → Entry
  | [], e => e
  | [s], e => .directory (Entries.erase s e.entries)
  | s :: rest, e =>
    match Entries.get? s e.entries with
    | none => e
    | some d => .directory (Entries.put s (remove rest d) e.entries)

end Entry

/-- The bytes that a name may have. -/
def nameLimit : Nat := 255

/-- The bytes that a path may have. -/
def pathLimit : Nat := 4095

/-- Follows names from a place in the tree.  A place is given as the entry itself and those
above it, nearest first; nothing is known above the tree. -/
def follow : List Entry → List String → Except Fault (List Entry)
  | place, [] => .ok place
  | [], _ :: _ => .error .missing
  | .file _ :: _, _ :: _ => .error .notADirectory
  | .directory es :: above, s :: rest =>
    if s = "" ∨ s = "." then follow (.directory es :: above) rest
    else if s = ".." then follow above rest
    else if nameLimit < s.utf8ByteSize then .error .nameTooLong
    else match Entries.get? s es with
      | none => .error .missing
      | some e => follow (e :: .directory es :: above) rest

end Files

/-- A picture of a directory tree. -/
structure Files where
  /-- The absolute path of the tree, as it is written. -/
  root : String
  /-- The names that lead from the top of the tree to the current directory. -/
  cwd : List String
  top : Files.Entry

namespace Files

/-- The absolute path of the current directory. -/
def currentDirectory (f : Files) : String := "/".intercalate (f.root :: f.cwd)

/-- The rest of a path that starts with the path of the tree. -/
def below? (f : Files) (path : String) : Option String :=
  if path = f.root then some ""
  else if (f.root ++ "/").toList.isPrefixOf path.toList then
    some (String.ofList (path.toList.drop (f.root.length + 1)))
  else none

/-- What a path names. -/
def find (f : Files) (path : String) : Except Fault Entry := do
  if path.isEmpty then throw .missing
  if path.toList.contains '\x00' then throw .endMark
  if pathLimit < path.utf8ByteSize then throw .nameTooLong
  let place ← match f.below? path with
    | some rest => follow [f.top] (Path.segments rest)
    | none =>
      if Path.isAbsolute path then throw .missing
      else follow [f.top] (f.cwd ++ Path.segments path)
  match place with
  | e :: _ => pure e
  | [] => throw .missing

/-- Whether a path names something. -/
def holds (f : Files) (path : String) : Bool := (f.find path).toOption.isSome

/-- Whether a path names a file. -/
def holdsFile (f : Files) (path : String) : Bool :=
  match f.find path with
  | .ok (.file _) => true
  | _ => false

/-- The text of a file. -/
def readText (f : Files) (path : String) : Except Fault String := do
  match ← f.find path with
  | .directory _ => throw .isADirectory
  | .file (some text) => pure text
  | .file none => throw .notText

/-- The entries of a directory. -/
def list (f : Files) (path : String) : Except Fault (List (String × Entry)) := do
  match ← f.find path with
  | .directory es => pure es
  | .file _ => throw .notADirectory

end Files

end PagePress
