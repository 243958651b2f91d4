import PagePress.Files.Tree
import PagePress.Json.Reader
import PagePress.Pipeline.Check
import PagePress.Pipeline.Codec
import PagePress.Pipeline.Schemas
import PagePress.Schema.Reader

/-!
# Validation of states and contexts

A validator checks states and contexts by schemas, either the schemas of this library or those
found in a directory.

* `Registry` holds the rules of schemas by name; `Registry.check` checks by two of them;
* `Registry.ofDirectory` reads the schemas of a directory;
* `Validator` keeps the registry once it is complete.
-/

namespace PagePress

namespace Pipeline

/-- The rules of schemas by name. -/
abbrev Registry := Dict Schema.Rule

/-- The name of the schema for states. -/
def stateSchemaId : String := "https://schemas.pipe.dev/pipeline/context"

/-- The name of the schema for contexts. -/
def contextSchemaId : String := "https://schemas.pipe.dev/pipeline/action"

/-- The end of the name of a file that holds a schema. -/
def schemaSuffix : String := ".schema.json"

namespace Registry

/-- The schemas of this library. -/
def bundled : Registry :=
  .ofList [
    (contextSchemaId, Schema.plainRule Schemas.context),
    (stateSchemaId, Schema.plainRule Schemas.state)]

/-- The violations of a value by the schema of a name. -/
def violations (r : Registry) (id : String) (j : Json) : Except ValidationError (List String) :=
  match r.get? id with
  | none => .error (.missingSchema id)
  | some rule => .ok ((rule [] j).map Schema.Violation.text)

/-- Checks the state, and the context if the state is valid. -/
def check (r : Registry) : Check := fun s ctx step => do
  let found ← r.violations stateSchemaId s.toJson
  if !found.isEmpty then throw (.invalidState step found)
  let found ← r.violations contextSchemaId ctx.toJson
  if !found.isEmpty then throw (.invalidContext step found)

/-- The check of a registry, case by case. -/
theorem check_eq (r : Registry) (s : State) (ctx : Context) (step : Nat) :
    r.check s ctx step =
      match r.violations stateSchemaId s.toJson with
      | .error e => .error e
      | .ok (v :: vs) => .error (.invalidState step (v :: vs))
      | .ok [] =>
        match r.violations contextSchemaId ctx.toJson with
        | .error e => .error e
        | .ok (v :: vs) => .error (.invalidContext step (v :: vs))
        | .ok [] => .ok () := by
  unfold check
  rcases r.violations stateSchemaId s.toJson with _ | _ | _
  · rfl
  · rcases r.violations contextSchemaId ctx.toJson with _ | _ | _ <;> rfl
  · rfl

/-! ## Schemas of a directory -/

/-- A file with a schema: its path and its text, if its bytes are text. -/
structure SchemaFile where
  path : String
  text : Option String

/-- Whether a name is that of a file with a schema. -/
def isSchemaName (name : String) : Bool :=
  schemaSuffix.toList.isSuffixOf name.toList

/-- Reads a file with a schema.  The path of a directory may be too long for those of its files. -/
def schemaFile (path : String) (e : Files.Entry) : Except ValidationError SchemaFile :=
  if Files.pathLimit < path.utf8ByteSize then
    .error (.schemaLoad path Files.Fault.nameTooLong.message)
  else match e with
    | .file text => .ok ⟨path, text⟩
    | .directory _ => .error (.schemaLoad path Files.Fault.isADirectory.message)

/-- The files with schemas in a directory, in the order of their names. -/
def schemaFiles (files : Files) (dir : String) : Except ValidationError (List SchemaFile) :=
  match files.list dir with
  | .error fault => .error (.schemaLoad dir fault.message)
  | .ok es =>
    ((es.filter fun e => isSchemaName e.1).mergeSort fun a b => a.1 ≤ b.1).mapM
      fun (e : String × Files.Entry) => schemaFile (Files.Path.join dir e.1) e.2

/-- The name of a schema: the one it gives itself, or else its path. -/
def schemaId (path : String) (j : Json) : String := (j.getStr? "$id").getD path

/-- Adds the schema of a file. -/
def compile (r : Registry) (f : SchemaFile) : Except ValidationError Registry :=
  match f.text.bind Json.read? with
  | none => .error (.schemaParse f.path "no JSON value")
  | some j =>
    match Schema.Document.ofJson? j with
    | none => .error (.schemaCompile f.path "no schema")
    | some doc => .ok (r.insert (schemaId f.path j) doc.rule)

/-- The schemas of a directory. -/
def ofDirectory (files : Files) (dir : String) : Except ValidationError Registry := do
  (← schemaFiles files dir).foldlM compile .empty

end Registry

/-! ## Validators -/

/-- Where the schemas come from. -/
inductive SchemaSource where
  | bundled
  | directory (path : String)
deriving DecidableEq, Repr

/-- The registry of a source. -/
def SchemaSource.registry (source : SchemaSource) (files : Files) :
    Except ValidationError Registry :=
  match source with
  | bundled => .ok .bundled
  | directory path => Registry.ofDirectory files path

/-- The check by the schemas of a source. -/
def SchemaSource.check (source : SchemaSource) (files : Files) : Check := fun s ctx step => do
  (← source.registry files).check s ctx step

/-- A validator, which keeps its registry once it is complete. -/
structure Validator where
  source : SchemaSource
  registry : Option Registry
  /-- How often a registry was completed. -/
  compilations : Nat

namespace Validator

/-- A validator that has read nothing. -/
def new (source : SchemaSource) : Validator := ⟨source, none, 0⟩

/-- The directory that is searched for schemas. -/
def schemaDirectory? (v : Validator) : Option String :=
  match v.source with
  | .bundled => none
  | .directory path => some path

/-- Checks a state and a context, and reads the schemas if that is still to be done. -/
def validate (v : Validator) (files : Files) (s : State) (ctx : Context) (step : Nat) :
    Except ValidationError Unit × Validator :=
  match v.registry with
  | some r => (r.check s ctx step, v)
  | none =>
    match v.source.registry files with
    | .error e => (.error e, v)
    | .ok r =>
      (r.check s ctx step, { v with registry := some r, compilations := v.compilations + 1 })

end Validator

end Pipeline

end PagePress
