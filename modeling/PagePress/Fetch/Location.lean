import PagePress.Files.Path
import PagePress.Pipeline.Context

/-!
# Where a document is found

* `FetchError` says why a document could not be read, with its text and its status;
* `Location.ofContext` finds out which document a request addresses;
* `Location.url` is the address of the document.
-/

namespace PagePress

namespace Fetch

open Pipeline (Context)

/-- The parameters that a request has to have. -/
inductive Required where
  | owner
  | repo
  | path
deriving DecidableEq, Repr

/-- The name of a required parameter. -/
def Required.name : Required → String
  | .owner => "owner"
  | .repo => "repo"
  | .path => "path"

/-- Why a document could not be read. -/
inductive FetchError where
  | missingParam (name : String)
  | notFound (address : String)
  | http (reason : String)
  | io (reason : String)
deriving DecidableEq, Repr

namespace FetchError

/-- The text of an error. -/
def message : FetchError → String
  | missingParam name => "Unknown " ++ name ++ ", cannot fetch content"
  | notFound address => "Could not find markdown at " ++ address
  | http reason => "HTTP error: " ++ reason
  | io reason => "I/O error: " ++ reason

/-- The causes behind an error, itself included. -/
def causes (e : FetchError) : List String :=
  match e with
  | io reason => [e.message, reason]
  | _ => [e.message]

/-- The status of a response to an error. -/
def status : FetchError → UInt16
  | missingParam _ => 400
  | notFound _ => 404
  | http _ | io _ => 502

end FetchError

/-- The document that a request addresses. -/
structure Location where
  /-- The address under which repositories are found. -/
  rawRoot : String
  owner : String
  repo : String
  /-- The branch, tag or commit. -/
  ref : String
  path : String
deriving DecidableEq, Repr

/-- The address of repositories when the secrets name none. -/
def defaultRawRoot : String := "https://raw.githubusercontent.com/"

/-- The branch when the request names none. -/
def defaultRef : String := "master"

namespace Location

/-- A parameter that has to be there and not to be empty. -/
def required (p : Required) (value : Option String) : Except FetchError String :=
  match value.filter (· ≠ "") with
  | some v => .ok v
  | none => .error (.missingParam p.name)

/-- The document that a request addresses. -/
def ofContext (ctx : Context) : Except FetchError Location := do
  let owner ← required .owner ctx.params.owner
  let repo ← required .repo ctx.params.repo
  let path ← required .path ctx.params.path
  pure ⟨(ctx.secrets.get? Pipeline.rawRootKey).getD defaultRawRoot, owner, repo,
    ctx.params.ref.getD defaultRef, path⟩

/-- The address of the document. -/
def url (l : Location) : String :=
  "/".intercalate
    [Files.Path.trimTrailing l.rawRoot, l.owner, l.repo, l.ref, Files.Path.trimLeading l.path]

end Location

end Fetch

end PagePress
