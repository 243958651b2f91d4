import PagePress.CommandLine.Report

/-!
# The program

The program looks at the files that its arguments and settings name, puts them into a picture
of the tree of files, and prints the report on that picture.  Of a directory of schemas it looks
at the files with the schemas that a run needs.
-/

namespace PagePress

namespace Program

/-! ## Files -/

/-- What a path names, if anything. -/
def look (path : String) : IO (Option Files.Entry) := do
  try
    let bytes ← IO.FS.readBinFile path
    return some (.file (String.fromUTF8? bytes))
  catch e =>
    match e with
    | .inappropriateType _ 21 _ => return some .empty
    | _ => return none

/-- Adds what the names on a path lead to, one after another. -/
def addAlong : List String → List String → Files → IO Files
  | _, [], files => return files
  | above, ".." :: rest, files => addAlong above.dropLast rest files
  | above, s :: rest, files => do
    let names := above ++ [s]
    match ← look ("/" ++ "/".intercalate names) with
    | some (.file text) =>
      return { files with top := Files.Entry.put (.file text) names files.top }
    | some (.directory _) =>
      addAlong names rest { files with top := Files.Entry.makeDirectory names files.top }
    | none => return files

/-- Adds what a path names. -/
def addPath (files : Files) (path : String) : IO Files :=
  if Files.Path.isAbsolute path then addAlong [] (Files.Path.names path) files
  else addAlong [] (files.cwd ++ Files.Path.names path) files

/-! ## Environment -/

/-- The variables that the settings in a file refer to. -/
def variableNames (files : Files) (path : String) : List String :=
  match (files.readText path).toOption.bind Toml.read? |>.bind Config.ofDocument? with
  | none => []
  | some c => (c.rawRoot.toList ++ c.secrets.entries.map (·.2)).flatMap fun s =>
      Config.mentioned s.toList

/-- The values of variables that are set. -/
def valuesOf : List String → IO (Dict String)
  | [] => return .empty
  | k :: ks => do
    let rest ← valuesOf ks
    match ← IO.getEnv k with
    | some v => return rest.insert k v
    | none => return rest

/-! ## Surroundings -/

/-- The names of the files with the schemas that a run needs. -/
def schemaFiles : List String := ["action.schema.json", "context.schema.json"]

/-- The paths that a run with the given settings reads. -/
def wanted (a : CommandLine.RenderArguments) (c : Config) : List String :=
  (c.sourceDir.toList.filterMap fun dir => Fetch.resolve? dir a.path)
    ++ c.schemaDir.toList.flatMap fun dir => dir :: schemaFiles.map (Files.Path.join dir)

/-- The files and the environment of a run. -/
def surroundings (a : CommandLine.RenderArguments) (files : Files) :
    IO (Files × Config.Environment) := do
  let candidates := match a.config with
    | some p => [p]
    | none => Config.candidates files.root files.cwd.reverse
  let files ← candidates.foldlM addPath files
  let values ← valuesOf
    (Pipeline.rawRootKey :: ((a.config.or (Config.discover? files)).toList.flatMap (variableNames files)))
  let env := values.get?
  match Config.load files env a.config (some a.overrides) with
  | .error _ => return (files, env)
  | .ok c => return (← (wanted a c).foldlM addPath files, env)

/-! ## Output -/

/-- Prints a note. -/
def tell (stderr : IO.FS.Stream) : CommandLine.Note → IO Unit
  | .logged e => stderr.putStrLn (e.level.name ++ " " ++ e.message)
  | .told s => stderr.putStrLn s

/-- A server is out of reach of this program. -/
def web : Fetch.Source := .unreachable "no connection"

/-- Prints the report on the arguments, and gives its status. -/
def run (args : List String) : IO UInt32 := do
  let here := Files.Path.names (toString (← IO.currentDir))
  let files : Files := ⟨"", here, .empty⟩
  let rawRoot ← IO.getEnv Pipeline.rawRootKey
  let (files, env) ← match CommandLine.Command.ofArguments? rawRoot args with
    | some (.render a) => surroundings a files
    | _ => pure (files, fun k => if k = Pipeline.rawRootKey then rawRoot else none)
  let r := CommandLine.report files env web args
  (← IO.getStdout).putStr r.output
  let stderr ← IO.getStderr
  for n in r.notes do tell stderr n
  return r.status.toUInt32

end Program

end PagePress

/-- Runs the program. -/
def main (args : List String) : IO UInt32 := PagePress.Program.run args
