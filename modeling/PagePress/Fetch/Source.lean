import PagePress.Fetch.Location
import PagePress.Files.Tree

/-!
# Sources of documents

* `Source` tells the address of a document and reads it;
* `Source.directory` reads from a directory, which a request cannot leave;
* `Source.unreachable` stands for a server that no answer comes from.
-/

namespace PagePress

namespace Fetch

/-- Where documents are read. -/
structure Source where
  /-- The address that is noted for a document. -/
  uri : Location → String
  /-- Reads a document. -/
  read : Location → Except FetchError String

/-- The path of a requested document below a directory, unless a step of the request leads out
of it. -/
def resolve? (root path : String) : Option String :=
  let relative := Files.Path.trimLeading path
  if (Files.Path.components relative).all Files.Path.Component.staysBelow then
    some (Files.Path.join root relative)
  else none

namespace Source

/-- Reads the file that a request names below a directory. -/
def readBelow (files : Files) (root path : String) : Except FetchError String :=
  match resolve? root path with
  | none => .error (.notFound path)
  | some file =>
    match files.readText file with
    | .ok text => .ok text
    | .error .missing => .error (.notFound file)
    | .error fault => .error (.io fault.message)

/-- Reads documents from a directory; of a request only the path counts. -/
def directory (files : Files) (root : String) : Source where
  uri l := "file://" ++ (resolve? root l.path).getD (Files.Path.join root l.path)
  read l := readBelow files root l.path

/-- A server that cannot be reached. -/
def unreachable (reason : String) : Source where
  uri := Location.url
  read _ := .error (.http reason)

end Source

end Fetch

end PagePress
