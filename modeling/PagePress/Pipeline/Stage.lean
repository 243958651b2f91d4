import PagePress.Pipeline.Context
import PagePress.Pipeline.State

/-!
# Stages

A stage turns a state into a state; it may log messages, and it may fail.

* `StageError` is the message of a failure and the causes behind it;
* `Outcome` is what a stage leaves, whether it failed or not;
* `Stage` is a stage by name.
-/

namespace PagePress

namespace Pipeline

/-! ## Logs -/

/-- How important a message is. -/
inductive Level where
  | trace
  | debug
  | info
  | warn
  | error
deriving DecidableEq, Repr

/-- The name of a level. -/
def Level.name : Level → String
  | .trace => "TRACE"
  | .debug => "DEBUG"
  | .info => "INFO"
  | .warn => "WARN"
  | .error => "ERROR"

/-- A logged message. -/
structure LogEntry where
  level : Level
  message : String
deriving DecidableEq, Repr

/-- Messages in the order they were logged. -/
abbrev Log := List LogEntry

/-! ## Stages -/

/-- Why a stage failed. -/
structure StageError where
  message : String
  /-- The cause of the failure, the cause of that cause, and so on. -/
  causes : List String
deriving DecidableEq, Repr

/-- The message and all causes in one line. -/
def StageError.chain (e : StageError) : String := ": ".intercalate (e.message :: e.causes)

/-- What a stage leaves. -/
structure Outcome where
  state : State
  failure : Option StageError
  log : Log

namespace Outcome

/-- A stage that completed. -/
def completed (s : State) (log : Log) : Outcome := ⟨s, none, log⟩

/-- A stage that failed. -/
def failed (s : State) (e : StageError) (log : Log) : Outcome := ⟨s, some e, log⟩

end Outcome

/-- A step of a pipeline. -/
structure Stage where
  name : String
  /-- What the stage does to a state, given the context of the run. -/
  run : Context → State → Outcome

/-- A stage that always completes and logs nothing. -/
def Stage.pure (name : String) (f : Context → State → State) : Stage :=
  ⟨name, fun ctx s => .completed (f ctx s) []⟩

end Pipeline

end PagePress
