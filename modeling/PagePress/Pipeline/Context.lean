import PagePress.Json.Decode

/-!
# The context of a run

What a run is given and never changes: the raw parameters of the request, and secrets and
settings by key.
-/

namespace PagePress

namespace Pipeline

/-- The raw parameters of a request. -/
structure RawParams where
  /-- The user or organisation that owns the repository. -/
  owner : Option String
  repo : Option String
  /-- The branch, tag or commit. -/
  ref : Option String
  /-- The path of the document in the repository. -/
  path : Option String
  /-- The headers of the request. -/
  headers : Option (Dict Json)
  /-- Any other parameter. -/
  extra : Dict String
deriving DecidableEq

/-- Secrets and settings by key. -/
structure Secrets where
  /-- The address under which repositories are found. -/
  rawRoot : Option String
  extra : Dict String
deriving DecidableEq

/-- What a run is given. -/
structure Context where
  params : RawParams
  secrets : Secrets
deriving DecidableEq

/-- The key of the address under which repositories are found. -/
def rawRootKey : String := "REPO_RAW_ROOT"

namespace RawParams

/-- No parameters. -/
def empty : RawParams := ⟨none, none, none, none, none, .empty⟩

/-- The names of the parameters with a meaning of their own. -/
def names : List String := ["owner", "repo", "ref", "path", "__ow_headers"]

/-- Writes parameters. -/
def toJson (p : RawParams) : Json :=
  let text (k : String) (v : Option String) := (v.map fun s => (k, Json.str s)).toList
  .mkObj (
    text "owner" p.owner ++ text "repo" p.repo ++ text "ref" p.ref ++ text "path" p.path
      ++ (p.headers.map fun h => ("__ow_headers", Json.ofDict h)).toList
      ++ p.extra.entries.map fun e => (e.1, .str e.2))

/-- Reads parameters; any other parameter has to be a text. -/
def ofJson? : Json → Option RawParams
  | .obj es => do
    let r := Json.Record.named es
    let owner ← r.optional? 0 "owner" Json.str?
    let repo ← r.optional? 0 "repo" Json.str?
    let ref ← r.optional? 0 "ref" Json.str?
    let path ← r.optional? 0 "path" Json.str?
    let headers ← r.optional? 0 "__ow_headers" Json.object?
    let extra ← (Json.obj (es.filter fun e => !names.contains e.1)).texts?
    some ⟨owner, repo, ref, path, headers, extra⟩
  | _ => none

end RawParams

namespace Secrets

/-- No secrets. -/
def empty : Secrets := ⟨none, .empty⟩

/-- Secrets from a dictionary. -/
def ofDict (d : Dict String) : Secrets := ⟨d.get? rawRootKey, d.erase rawRootKey⟩

/-- The secret of a key. -/
def get? (s : Secrets) (k : String) : Option String :=
  if k = rawRootKey then s.rawRoot else s.extra.get? k

/-- Writes secrets. -/
def toJson (s : Secrets) : Json :=
  .mkObj (
    (s.rawRoot.map fun r => (rawRootKey, Json.str r)).toList
      ++ s.extra.entries.map fun e => (e.1, .str e.2))

/-- Reads secrets. -/
def ofJson? : Json → Option Secrets
  | .obj es => do
    let root ← (Json.Record.named es).optional? 0 rawRootKey Json.str?
    let extra ← (Json.obj (es.filter fun e => e.1 != rawRootKey)).texts?
    some ⟨root, extra⟩
  | _ => none

end Secrets

namespace Context

/-- The context of a request that is read from JSON. -/
def requestOfJson? (j : Json) : Option RawParams := do
  let r ← j.record? ["params"]
  r.defaulted? 0 "params" .empty RawParams.ofJson?

/-- Writes a context. -/
def toJson (c : Context) : Json :=
  .mkObj [
    ("request", .mkObj [("params", c.params.toJson)]),
    ("secrets", c.secrets.toJson)]

end Context

end Pipeline

end PagePress
