import PagePress.Config.Expand
import PagePress.Files.Tree
import PagePress.Pipeline.Context
import PagePress.Toml.Reader

/-!
# Settings

* `Config` holds the settings of the program, `Config.Overrides` those of the command line;
* `Config.read` reads settings from a file, `Config.discover?` looks for that file;
* `Config.load` gives the settings in force, each of them checked;
* `Config.pipelineSecrets` are the secrets that a run is given.
-/

namespace PagePress

/-- The settings of the program. -/
structure Config where
  secrets : Dict String
  /-- The address under which repositories are found. -/
  rawRoot : Option String
  /-- How many seconds a server may take. -/
  timeout : Nat
  /-- A directory that documents are read from. -/
  sourceDir : Option String
  /-- A directory that schemas are read from. -/
  schemaDir : Option String
  /-- The file that the settings were read from. -/
  path : Option String
deriving DecidableEq

namespace Config

/-! ## Errors -/

/-- Why settings cannot be used. -/
inductive Error where
  | notFound (path : String)
  | io (reason : String)
  | parse
  | validation (reason : String)
  /-- A variable that a field refers to is not set. -/
  | notSet (field name : String)
deriving DecidableEq, Repr

/-- The text of an error. -/
def Error.message : Error → String
  | notFound path => "Configuration file not found: " ++ path
  | io reason => "I/O error: " ++ reason
  | parse => "TOML parse error: not a document of settings"
  | validation reason => "Configuration error: " ++ reason
  | notSet field name =>
    "Environment variable error in " ++ field ++ ": $\x7b" ++ name ++ "\x7d not set"

/-! ## Defaults and overrides -/

/-- How many seconds a server may take unless it is said otherwise. -/
def usualTimeout : Nat := 10

/-- Settings that nothing is said about. -/
def usual : Config := ⟨.empty, none, usualTimeout, none, none, none⟩

/-- Settings of the command line. -/
structure Overrides where
  rawRoot : Option String
  schemaDir : Option String
  sourceDir : Option String
deriving DecidableEq, Repr

/-- Replaces what is given on the command line. -/
def override (c : Config) (o : Overrides) : Config :=
  { c with
    rawRoot := o.rawRoot.or c.rawRoot
    schemaDir := o.schemaDir.or c.schemaDir
    sourceDir := o.sourceDir.or c.sourceDir }

/-! ## Documents of settings -/

/-- A field of a record, which is given by name in a table or by place in an array. -/
def field? (v : Toml.Value) (place : Nat) (name : String) : Option (Option Toml.Value) :=
  match v with
  | .table _ es => some (Entries.get? name es)
  | .array items | .tables items => some items[place]?
  | _ => none

/-- A text, if it is given. -/
def text? : Option Toml.Value → Option (Option String)
  | none => some none
  | some (.text s) => some (some s)
  | some _ => none

/-- A number of seconds, below `2 ^ 64`. -/
def seconds? : Option Toml.Value → Option Nat
  | none => some usualTimeout
  | some (.integer n) => if 0 ≤ n ∧ n < 18446744073709551616 then some n.toNat else none
  | some _ => none

/-- A table of texts. -/
def texts? : Option Toml.Value → Option (Dict String)
  | none => some .empty
  | some (.table _ es) =>
    (es.mapM fun (e : String × Toml.Value) => match e.2 with
      | .text s => some (e.1, s)
      | _ => none).map Dict.ofList
  | some _ => none

/-- A table that counts as empty when it is not given. -/
def orEmpty (v : Option Toml.Value) : Toml.Value := v.getD (.table .written [])

/-- The settings in a document. -/
def ofDocument? (es : Toml.Entries) : Option Config := do
  let secrets ← texts? (Entries.get? "secrets" es)
  let fetch := orEmpty (Entries.get? "fetch" es)
  let schemas := orEmpty (Entries.get? "schemas" es)
  let rawRoot ← text? (← field? fetch 0 "raw_root")
  let timeout ← seconds? (← field? fetch 1 "timeout_secs")
  let sourceDir ← text? (← field? fetch 2 "source_dir")
  let schemaDir ← text? (← field? schemas 0 "dir")
  some ⟨secrets, rawRoot, timeout, sourceDir, schemaDir, none⟩

/-! ## References -/

/-- Replaces the references in a field. -/
def expandField (env : Environment) (field value : String) : Except Error String :=
  (expand env value).mapError (.notSet field)

/-- Replaces the references in the values of entries. -/
def expandEntries (env : Environment) :
    List (String × String) → Except Error (List (String × String))
  | [] => .ok []
  | (k, v) :: es => do
    let v ← expandField env ("secrets." ++ k) v
    return (k, v) :: (← expandEntries env es)

/-- Replaces the references in the secrets and in the address of repositories. -/
def expandReferences (c : Config) (env : Environment) : Except Error Config := do
  let secrets ← expandEntries env c.secrets.entries
  let rawRoot ← match c.rawRoot with
    | none => pure none
    | some s => some <$> expandField env "fetch.raw_root" s
  return { c with secrets := .ofList secrets, rawRoot }

/-! ## Paths -/

/-- The path of a file below a directory, for paths that are given below it. -/
def below (c : Config) (dir : String) : Config :=
  { c with
    schemaDir := c.schemaDir.map (Files.Path.join dir)
    sourceDir := c.sourceDir.map (Files.Path.join dir) }

/-! ## Checks -/

/-- A character of the key of a secret. -/
def isKeyChar (c : Char) : Bool :=
  ('A' ≤ c && c ≤ 'Z') || ('0' ≤ c && c ≤ '9') || c = '_'

/-- Whether a text may be the key of a secret. -/
def isSecretKey (s : String) : Bool := !s.isEmpty && s.toList.all isKeyChar

/-- Whether a text is an address of the web. -/
def isWebAddress (s : String) : Bool :=
  "http://".toList.isPrefixOf s.toList || "https://".toList.isPrefixOf s.toList

/-- Checks settings; the first fault counts. -/
def validate (c : Config) : Except Error Unit := do
  match c.secrets.keys.find? fun k => !isSecretKey k with
  | some k => throw (.validation ("secrets." ++ k ++ " must match [A-Z0-9_]+"))
  | none => pure ()
  if c.rawRoot.any fun s => !isWebAddress s then
    throw (.validation "fetch.raw_root must start with http:// or https://")
  if c.timeout = 0 then
    throw (.validation "fetch.timeout_secs must be greater than 0")

/-! ## Files -/

/-- The name of the file that is looked for. -/
def fileName : String := "pipe.toml"

/-- The paths of the file in a directory and in those above it, the nearest first.  The names
that lead to the directory are given from the last one on. -/
def candidates (root : String) : List String → List String
  | [] => [root ++ "/" ++ fileName]
  | s :: rest => "/".intercalate (root :: (s :: rest).reverse ++ [fileName]) :: candidates root rest

/-- The nearest file with settings, from the current directory upward. -/
def discover? (files : Files) : Option String :=
  (candidates files.root files.cwd.reverse).find? files.holds

/-- Reads settings from a file. -/
def read (files : Files) (env : Environment) (path : String) : Except Error Config := do
  let text ← (files.readText path).mapError fun fault => .io fault.message
  let c ← match (Toml.read? text).bind ofDocument? with
    | some c => pure c
    | none => throw .parse
  let c ← c.expandReferences env
  let c := { c.below ((Files.Path.parent? path).getD ".") with path := some path }
  c.validate
  return c

/-- The settings of a given file, or else of the nearest one, or else the usual ones. -/
def base (files : Files) (env : Environment) (path : Option String) : Except Error Config :=
  match path, discover? files with
  | some p, _ => if files.holds p then read files env p else .error (.notFound p)
  | none, some p => read files env p
  | none, none => .ok usual

/-- The settings in force. -/
def load (files : Files) (env : Environment) (path : Option String)
    (overrides : Option Overrides) : Except Error Config := do
  let c ← base files env path
  match overrides with
  | none => return c
  | some o =>
    let c := c.override o
    c.validate
    return c

/-! ## Secrets of a run -/

/-- The secrets that a run is given, among them the address of repositories. -/
def pipelineSecrets (c : Config) : Pipeline.Secrets :=
  .ofDict (match c.rawRoot with
    | some r => c.secrets.insert Pipeline.rawRootKey r
    | none => c.secrets)

end Config

end PagePress
