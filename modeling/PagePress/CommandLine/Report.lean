import PagePress.CommandLine.Arguments
import PagePress.Config.Settings
import PagePress.Pipeline.Validator

/-!
# What the program prints

* `Report` is the exit status, the output and the messages of the program;
* `report` gives it, in terms of the files, the environment and the arguments.
-/

namespace PagePress

namespace CommandLine

/-! ## Reports -/

/-- A message on the screen. -/
inductive Note where
  /-- A message of the log, which is shown with its level. -/
  | logged (e : Pipeline.LogEntry)
  | told (s : String)
deriving DecidableEq, Repr

/-- What the program leaves. -/
structure Report where
  status : Nat
  output : String
  notes : List Note
deriving DecidableEq, Repr

/-- The exit status of arguments that are not usable. -/
def usageStatus : Nat := 2

/-- The version of the program. -/
def version : String := "0.1.0"

/-- How the program is used. -/
def usage : String :=
  "Usage: pipe render --owner <OWNER> --repo <REPO> --path <PATH> [OPTIONS]\n\n"
    ++ "Options:\n"
    ++ "      --ref <REF>\n"
    ++ "  -c, --config <CONFIG>\n"
    ++ "  -s, --source-dir <SOURCE_DIR>\n"
    ++ "      --raw-root <RAW_ROOT>\n"
    ++ "      --schema-dir <SCHEMA_DIR>\n"
    ++ "  -f, --format <FORMAT>\n"
    ++ "  -v, --verbose\n"
    ++ "  -h, --help\n"

/-! ## Rendering -/

/-- Whether a message of the log is shown. -/
def isShown (verbose : Bool) (e : Pipeline.LogEntry) : Bool :=
  match e.level with
  | .error => true
  | .warn | .info => verbose
  | .debug | .trace => false

/-- The settings of the command line. -/
def RenderArguments.overrides (a : RenderArguments) : Config.Overrides :=
  ⟨a.rawRoot, a.schemaDir, a.sourceDir⟩

/-- The parameters of the request. -/
def RenderArguments.params (a : RenderArguments) : Pipeline.RawParams :=
  ⟨some a.owner, some a.repo, a.ref, some a.path, none, .empty⟩

/-- The main stage of a format. -/
def mainStage : Pipeline.Format → Pipeline.Stage
  | .json => Pipeline.emitJson
  | .html => .pure "main" fun _ s => s

/-- Where documents are read: from a directory, if the settings name one. -/
def sourceOf (files : Files) (web : Fetch.Source) (c : Config) : Fetch.Source :=
  match c.sourceDir with
  | some dir => .directory files dir
  | none => web

/-- Where schemas are read. -/
def schemasOf (c : Config) : Pipeline.SchemaSource :=
  match c.schemaDir with
  | some dir => .directory dir
  | none => .bundled

/-- A response as it is printed. -/
def document (r : Pipeline.Response) : Json :=
  .mkObj [
    ("status", Json.orNull (r.status.map fun n => .ofNat n.toNat)),
    ("headers", .ofTexts r.headers),
    ("body", Json.orNull r.body)]

/-- The note about the file that the settings were read from. -/
def loadedNote (c : Config) : List Note :=
  c.path.toList.map fun p => .logged ⟨.info, "Loaded configuration path=" ++ p⟩

/-- The notes at the end of a run. -/
def closingNotes (verbose : Bool) (s : Pipeline.State) (status : UInt16) : List Note :=
  (s.error.toList.map fun e => .told ("Pipeline error: " ++ e))
    ++ (if 400 ≤ status then [.told ("Request failed with status " ++ toString status.toNat)]
      else if verbose then [.told ("Status " ++ toString status.toNat)]
      else [])

/-- Renders a document with the settings in force. -/
def renderWith (files : Files) (web : Fetch.Source) (a : RenderArguments) (c : Config) : Report :=
  let p := Pipeline.page a.format (mainStage a.format) (sourceOf files web c) []
  let ctx : Pipeline.Context := ⟨a.params, c.pipelineSecrets⟩
  let check := (schemasOf c).check files
  let s := p.run check ctx
  let status := s.response.status.getD 200
  let log := Pipeline.constructing a.format :: p.runLog check ctx
  { status := if 400 ≤ status then 1 else 0
    output := (document s.response).pretty ++ "\n"
    notes := (if a.verbose then loadedNote c else [])
      ++ ((log.filter (isShown a.verbose)).map .logged)
      ++ closingNotes a.verbose s status }

/-- Renders a document. -/
def render (files : Files) (env : Config.Environment) (web : Fetch.Source)
    (a : RenderArguments) : Report :=
  match Config.load files env a.config (some a.overrides) with
  | .ok c => renderWith files web a c
  | .error e => ⟨1, "", [.told ("Error: " ++ e.message)]⟩

/-- What the program leaves for its arguments. -/
def report (files : Files) (env : Config.Environment) (web : Fetch.Source)
    (args : List String) : Report :=
  match Command.ofArguments? (env Pipeline.rawRootKey) args with
  | some .version => ⟨0, "pipe " ++ version ++ "\n", []⟩
  | some .help => ⟨0, usage, []⟩
  | some (.render a) => render files env web a
  | none => ⟨usageStatus, "", [.told usage]⟩

end CommandLine

end PagePress
