import PagePress.Pipeline.Page

/-!
# Arguments of the command line

* `Command` is what the arguments ask for;
* `Command.ofArguments?` reads them, and gives nothing if they are not usable.
-/

namespace PagePress

namespace CommandLine

/-! ## Options -/

/-- An option with a value. -/
inductive Opt where
  | owner
  | repo
  | ref
  | path
  | config
  | sourceDir
  | rawRoot
  | schemaDir
  | format
deriving DecidableEq, Repr

namespace Opt

/-- All options with a value. -/
def all : List Opt := [owner, repo, ref, path, config, sourceDir, rawRoot, schemaDir, format]

/-- The name of an option. -/
def name : Opt → String
  | owner => "owner"
  | repo => "repo"
  | ref => "ref"
  | path => "path"
  | config => "config"
  | sourceDir => "source-dir"
  | rawRoot => "raw-root"
  | schemaDir => "schema-dir"
  | format => "format"

/-- The letter of an option that has one. -/
def ofLetter? : Char → Option Opt
  | 'c' => some config
  | 's' => some sourceDir
  | 'f' => some format
  | _ => none

/-- The option of a name. -/
def ofName? (s : String) : Option Opt := all.find? fun o => o.name == s

/-- Whether a value suits an option: a path of a file is not empty, a format is known. -/
def suits (o : Opt) (value : String) : Bool :=
  match o with
  | config | sourceDir | schemaDir => !value.isEmpty
  | format => value = "json" || value = "html"
  | _ => true

end Opt

/-! ## Commands -/

/-- What is to be rendered, and how. -/
structure RenderArguments where
  owner : String
  repo : String
  ref : Option String
  path : String
  /-- The file of settings. -/
  config : Option String
  /-- The directory that documents are read from. -/
  sourceDir : Option String
  /-- The address under which repositories are found. -/
  rawRoot : Option String
  /-- The directory that schemas are read from. -/
  schemaDir : Option String
  format : Pipeline.Format
  verbose : Bool
deriving DecidableEq, Repr

/-- What the arguments ask for. -/
inductive Command where
  | help
  | version
  | render (args : RenderArguments)
deriving DecidableEq, Repr

/-! ## Reading arguments -/

/-- The options that are given so far. -/
structure Given where
  values : List (Opt × String)
  verbose : Bool

namespace Given

/-- No options. -/
def none : Given := ⟨[], false⟩

/-- The value of an option. -/
def get? (g : Given) (o : Opt) : Option String := (g.values.find? fun v => v.1 = o).map (·.2)

/-- Adds an option, which is not given yet and whose value suits it. -/
def add? (g : Given) (o : Opt) (value : String) : Option Given :=
  if (g.get? o).isSome || !o.suits value then Option.none
  else some { g with values := (o, value) :: g.values }

/-- Asks for more messages, once. -/
def talk? (g : Given) : Option Given :=
  if g.verbose then Option.none else some { g with verbose := true }

/-- The command of the options; three of them are needed. -/
def command? (g : Given) (rawRoot : Option String) : Option Command := do
  let owner ← g.get? .owner
  let repo ← g.get? .repo
  let path ← g.get? .path
  some <| .render {
    owner, repo, path
    ref := g.get? .ref
    config := g.get? .config
    sourceDir := g.get? .sourceDir
    rawRoot := (g.get? .rawRoot).or rawRoot
    schemaDir := g.get? .schemaDir
    format := if g.get? .format = some "html" then .html else .json
    verbose := g.verbose }

end Given

/-- Whether an argument is an option and not a value. -/
def looksLikeOption (arg : String) : Bool :=
  match arg.toList with
  | '-' :: _ :: _ => true
  | _ => false

/-- What an argument says. -/
inductive Word where
  /-- Nothing but values follows. -/
  | stop
  | help
  /-- The letters up to the option are set already. -/
  | verbose
  | option (o : Opt) (value : Option String)
deriving DecidableEq, Repr

/-- A text in two at its first equals sign. -/
def splitEquals (cs : List Char) : List Char × Option (List Char) :=
  match cs.dropWhile (· ≠ '=') with
  | _ :: value => (cs.takeWhile (· ≠ '='), some value)
  | [] => (cs, none)

/-- What an option by name says. -/
def longWord? (cs : List Char) : Option Word :=
  let (name, value) := splitEquals cs
  let name := String.ofList name
  match name, value with
  | "help", none => some .help
  | "verbose", none => some .verbose
  | _, _ => (Opt.ofName? name).map fun o => .option o (value.map String.ofList)

/-- The value behind a letter, of which an equals sign is no part. -/
def attached : List Char → Option String
  | [] => none
  | '=' :: cs => some (String.ofList cs)
  | cs => some (String.ofList cs)

/-- What letters say, one after another. -/
def shortWords? : List Char → Option (List Word)
  | [] => some []
  | 'h' :: _ => some [.help]
  | 'v' :: cs => (shortWords? cs).map (.verbose :: ·)
  | c :: cs => (Opt.ofLetter? c).map fun o => [.option o (attached cs)]

/-- What an argument says; an argument that is no option is not usable. -/
def words? (arg : String) : Option (List Word) :=
  match arg.toList with
  | ['-', '-'] => some [.stop]
  | '-' :: '-' :: cs => (longWord? cs).map fun w => [w]
  | '-' :: c :: cs => shortWords? (c :: cs)
  | _ => none

/-- What comes of a word: a command, or options so far and the option that waits for a value. -/
inductive Progress where
  | done (c : Command)
  | more (g : Given) (waiting : Option Opt)
  | stopped (g : Given)

/-- Takes in words.  Only the last word can wait for a value. -/
def takeIn? (g : Given) : List Word → Option Progress
  | [] => some (.more g none)
  | .stop :: _ => some (.stopped g)
  | .help :: _ => some (.done .help)
  | .verbose :: ws => match g.talk? with
    | some g => takeIn? g ws
    | none => none
  | .option o none :: _ => if (g.get? o).isSome then none else some (.more g (some o))
  | .option o (some v) :: ws => match g.add? o v with
    | some g => takeIn? g ws
    | none => none

/-- Reads the arguments of the command that renders. -/
def renderCommand? (rawRoot : Option String) : Given → Option Opt → List String → Option Command
  | g, none, [] => g.command? rawRoot
  | _, some _, [] => none
  | g, some o, arg :: args =>
    if looksLikeOption arg then none
    else match g.add? o arg with
      | some g => renderCommand? rawRoot g none args
      | none => none
  | g, none, arg :: args =>
    match (words? arg).bind (takeIn? g) with
    | some (.done c) => some c
    | some (.more g waiting) => renderCommand? rawRoot g waiting args
    | some (.stopped g) => if args.isEmpty then g.command? rawRoot else none
    | none => none

/-- The command that the arguments ask for.  The address of repositories may also come from
the environment. -/
def Command.ofArguments? (rawRoot : Option String) : List String → Option Command
  | "render" :: args => renderCommand? rawRoot .none none args
  | ["help"] | ["help", "render"] => some .help
  | arg :: _ =>
    match arg.toList with
    | '-' :: 'V' :: _ => some .version
    | '-' :: 'h' :: _ => some .help
    | _ => if arg = "--version" then some .version
      else if arg = "--help" then some .help
      else none
  | [] => none

end CommandLine

end PagePress
