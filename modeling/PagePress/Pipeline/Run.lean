import PagePress.Pipeline.Check
import PagePress.Pipeline.Stage

/-!
# Running a pipeline

A pipeline has stages before its main stage, at most one main stage, and stages after it.

* `Pipeline.add` registers a stage, and refuses a second main stage;
* `Pipeline.addAll` registers any number of stages;
* `Pipeline.register` and `Pipeline.registerAll` do so in place, and answer every call;
* `Pipeline.steps` is the record of a run, step by step: after a failure the stages that are
  left before and at the main stage are skipped, those after it run all the same;
* `Pipeline.run` is the state that a run ends in.
-/

namespace PagePress

namespace Pipeline

/-! ## Registration -/

/-- When a stage runs. -/
inductive Phase where
  /-- Before the main stage. -/
  | pre
  /-- The main stage. -/
  | once
  /-- After the main stage. -/
  | post
deriving DecidableEq, Repr

/-- The name of a phase. -/
def Phase.name : Phase → String
  | .pre => "pre"
  | .once => "once"
  | .post => "post"

/-- Whether a stage of the phase is skipped after a failure. -/
def Phase.skippedAfterError : Phase → Bool
  | .pre | .once => true
  | .post => false

end Pipeline

/-- The stages of a pipeline. -/
structure Pipeline where
  pre : List Pipeline.Stage
  main : Option Pipeline.Stage
  post : List Pipeline.Stage

namespace Pipeline

/-- A stage that cannot be registered. -/
inductive RegistrationError where
  | duplicateMainStage (existing rejected : String)
deriving DecidableEq, Repr

/-- The text of a refusal. -/
def RegistrationError.message : RegistrationError → String
  | duplicateMainStage existing rejected =>
    "pipeline already has a main stage \x60" ++ existing ++ "\x60, cannot add \x60" ++ rejected
      ++ "\x60"

/-- No stages. -/
def empty : Pipeline := ⟨[], none, []⟩

/-- Registers a stage behind those of its phase. -/
def add (p : Pipeline) (phase : Phase) (stage : Stage) : Except RegistrationError Pipeline :=
  match phase, p.main with
  | .pre, _ => .ok { p with pre := p.pre ++ [stage] }
  | .post, _ => .ok { p with post := p.post ++ [stage] }
  | .once, none => .ok { p with main := some stage }
  | .once, some existing => .error (.duplicateMainStage existing.name stage.name)

/-- Registers stages one after another; one that is refused changes nothing. -/
def addAll (p : Pipeline) : List (Phase × Stage) → Pipeline
  | [] => p
  | (phase, stage) :: rest => addAll ((p.add phase stage).toOption.getD p) rest

/-- Registers a stage in place.  A second main stage is refused before anything is changed. -/
def register (phase : Phase) (stage : Stage) : ExceptT RegistrationError (StateM Pipeline) Unit := do
  match phase with
  | .pre => modify fun p => { p with pre := p.pre ++ [stage] }
  | .post => modify fun p => { p with post := p.post ++ [stage] }
  | .once =>
    if let some existing := (← get).main then
      throw (.duplicateMainStage existing.name stage.name)
    modify fun p => { p with main := some stage }

/-- Makes calls one after another, refused or not, and tells the answers to all of them. -/
def registerAll : List (Phase × Stage) → StateM Pipeline (List (Except RegistrationError Unit))
  | [] => pure []
  | (phase, stage) :: calls => do
    let answer ← (register phase stage).run
    return answer :: (← registerAll calls)

/-- All stages in the order they run. -/
def stages (p : Pipeline) : List (Phase × Stage) :=
  p.pre.map (Phase.pre, ·) ++ p.main.toList.map (Phase.once, ·) ++ p.post.map (Phase.post, ·)

/-- The names of all stages in the order they run. -/
def stageNames (p : Pipeline) : List String := p.stages.map fun (s : Phase × Stage) => s.2.name

/-! ## Steps -/

/-- The record of a step. -/
structure Step where
  /-- The place of the stage among all stages. -/
  number : Nat
  phase : Phase
  stage : Stage
  /-- The state before the step. -/
  received : State
  /-- What the stage left, unless it was skipped. -/
  outcome : Option Outcome
  /-- The state after the step and its check. -/
  result : State
  log : Log

/-- The state that a stage leaves, a failure noted as its error. -/
def Outcome.noted (o : Outcome) : State :=
  match o.failure with
  | none => o.state
  | some e => { o.state with error := some e.message }

/-- The message that is logged for a failure. -/
def Outcome.report (o : Outcome) (name : String) : Log :=
  o.failure.toList.map fun e => ⟨.error, "Stage \x60" ++ name ++ "\x60 failed: " ++ e.chain⟩

/-- Checks a state; an error of the check replaces the error of the state. -/
def checked (check : Check) (ctx : Context) (number : Nat) (s : State) : State × Log :=
  match check s ctx number with
  | .ok () => (s, [])
  | .error e => ({ s with error := some e.message }, [⟨.warn, e.message⟩])

/-- The message that is logged before a stage. -/
def announcement (verb : String) (phase : Phase) (number : Nat) (name rest : String) : LogEntry :=
  ⟨.debug, verb ++ " " ++ phase.name ++ " stage " ++ toString number ++ " \x60" ++ name ++ "\x60"
    ++ rest⟩

/-- Runs a stage, or skips it after a failure. -/
def step (check : Check) (ctx : Context) (number : Nat) (phase : Phase) (stage : Stage)
    (s : State) : Step :=
  if s.isFailed && phase.skippedAfterError then
    { number, phase, stage, received := s, outcome := none, result := s,
      log := [announcement "Skipping" phase number stage.name " after error"] }
  else
    let outcome := stage.run ctx s
    let (result, warning) := checked check ctx number outcome.noted
    { number, phase, stage, received := s, outcome := some outcome, result,
      log := announcement "Running" phase number stage.name "" :: outcome.log
        ++ outcome.report stage.name ++ warning }

/-- The steps of stages, numbered from `number` on. -/
def stepsFrom (check : Check) (ctx : Context) :
    Nat → List (Phase × Stage) → State → List Step
  | _, [], _ => []
  | number, (phase, stage) :: rest, s =>
    let x := step check ctx number phase stage s
    x :: stepsFrom check ctx (number + 1) rest x.result

/-- The steps of a run. -/
def steps (p : Pipeline) (check : Check) (ctx : Context) : List Step :=
  stepsFrom check ctx 0 p.stages .empty

/-- The state after the last step. -/
def lastResult (s : State) (xs : List Step) : State := (xs.getLast?.map Step.result).getD s

/-! ## Runs -/

/-- The status of a failed run that no stage gave an error status. -/
def errorStatus : UInt16 := 500

/-- Makes sure that the response of a failed run tells of the error. -/
def ensureErrorStatus (s : State) : State :=
  match s.error with
  | none => s
  | some e =>
    if s.response.isError then s
    else { s with response :=
      ⟨some errorStatus, some (.str e), s.response.headers.insert "Content-Type" "text/plain"⟩ }

/-- The state that a run ends in. -/
def run (p : Pipeline) (check : Check) (ctx : Context) : State :=
  ensureErrorStatus (lastResult .empty (p.steps check ctx))

/-- What a run logs. -/
def runLog (p : Pipeline) (check : Check) (ctx : Context) : Log :=
  (if p.main.isNone then [⟨.warn, "Pipeline has no main stage"⟩] else [])
    ++ (p.steps check ctx).flatMap Step.log

end Pipeline

end PagePress
