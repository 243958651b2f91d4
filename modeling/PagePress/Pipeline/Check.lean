import PagePress.Pipeline.Context
import PagePress.Pipeline.State

/-!
# Checks between stages

* `ValidationError` says why a state or a context did not pass, with its text;
* `Check` is any check of a state and a context after a numbered step.
-/

namespace PagePress

namespace Pipeline

/-- Why a check did not pass. -/
inductive ValidationError where
  | invalidState (step : Nat) (violations : List String)
  | invalidContext (step : Nat) (violations : List String)
  /-- A schema, or the directory of schemas, cannot be read. -/
  | schemaLoad (path reason : String)
  /-- A schema is no JSON. -/
  | schemaParse (path reason : String)
  /-- A JSON value is no schema. -/
  | schemaCompile (path reason : String)
  | missingSchema (id : String)
deriving DecidableEq, Repr

/-- The text of an error. -/
def ValidationError.message : ValidationError → String
  | invalidState step violations =>
    "Invalid Context at step " ++ toString step ++ "\n" ++ ", ".intercalate violations
  | invalidContext step violations =>
    "Invalid Action at step " ++ toString step ++ "\n" ++ ", ".intercalate violations
  | schemaLoad path reason => "failed to read schema " ++ path ++ ": " ++ reason
  | schemaParse path reason => "failed to parse schema " ++ path ++ ": " ++ reason
  | schemaCompile path reason => "failed to compile schema " ++ path ++ ": " ++ reason
  | missingSchema id => "schema \x60" ++ id ++ "\x60 not found"

/-- A check of what the step of the given number left. -/
abbrev Check := State → Context → Nat → Except ValidationError Unit

end Pipeline

end PagePress
