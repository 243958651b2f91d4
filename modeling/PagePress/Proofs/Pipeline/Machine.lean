import PagePress.Pipeline.Run
import PagePress.Proofs.Pipeline.Directory

/-!
# Machine — the rules of a run, and the run that follows them

`Pipeline.steps` records a run stage by stage.  This module says what a run has to be without
saying how it is computed:

* `Execution` is one executed stage with its place, the state it received, what it left, and the
  state after its check;
* `Lawful` relates what an execution received to what came of it;
* `Performance` gives the rules of a whole run: which stages are executed, in which order, and
  what each of them receives;
* `run_performs` is the main result: the steps of a pipeline are the one performance of its
  stages.

Stages, checks and contexts are arbitrary.  A check is asked about every place at most once, so
a check that changes its mind during a run is one of them.
-/

namespace PagePress

namespace Pipeline

/-! ## Executions -/

/-- A stage that was executed. -/
structure Execution where
  /-- The place of the stage among all stages. -/
  number : Nat
  stage : Stage
  received : State
  outcome : Outcome
  result : State

/-- What was executed in a step, unless it was skipped. -/
def Step.execution? (x : Step) : Option Execution :=
  x.outcome.map fun o => ⟨x.number, x.stage, x.received, o, x.result⟩

/-- What was executed in some steps. -/
def executions (xs : List Step) : List Execution := xs.filterMap Step.execution?

/-- A stage and its place. -/
def Execution.place (x : Execution) : Stage × Nat := (x.stage, x.number)

/-- The error after a stage: the message of the check if it did not pass, else that of the stage
if it failed, else the error that the stage left. -/
def latestError (left : Option String) (failure : Option StageError)
    (verdict : Except ValidationError Unit) : Option String :=
  match verdict, failure with
  | .error e, _ => some e.message
  | .ok (), some e => some e.message
  | .ok (), none => left

/-- The state that a check is shown: what the stage left, with the message of its failure. -/
def Execution.shown (x : Execution) : State :=
  { x.outcome.state with error := latestError x.outcome.state.error x.outcome.failure (.ok ()) }

/-- The stage ran on what it received, its check was shown what it left, and nothing but the
error differs in the result, where the latest failure is recorded. -/
structure Lawful (check : Check) (ctx : Context) (x : Execution) : Prop where
  ran : x.outcome = x.stage.run ctx x.received
  kept : x.result = { x.outcome.state with error := x.result.error }
  latest : x.result.error =
    latestError x.outcome.state.error x.outcome.failure (check x.shown ctx x.number)

/-- Each execution receives what the one before it left, the first one the given state. -/
def Linked : State → List Execution → Prop
  | _, [] => True
  | s, x :: xs => x.received = s ∧ Linked x.result xs

/-- The state after the last execution. -/
def finalState (s : State) (xs : List Execution) : State :=
  (xs.getLast?.map Execution.result).getD s

/-- The rules of a run: `early` is executed of the stages `front`, which a failure freezes, and
`late` of the stages `back`, which it does not. -/
structure Performance (check : Check) (ctx : Context) (front back : List Stage)
    (early late : List Execution) : Prop where
  /-- The executed front stages are a prefix of all of them, at their places. -/
  prefixed : early.map Execution.place = front.zipIdx.take early.length
  /-- None but the last of them leaves an error. -/
  unfailed : ∀ x ∈ early.dropLast, x.result.error = none
  /-- Unless all of them are executed, the last one leaves an error. -/
  stopped : early.length < front.length → ∃ x ∈ early.getLast?, x.result.error ≠ none
  /-- Every back stage is executed once, in order, at its place behind the whole front. -/
  complete : late.map Execution.place = back.zipIdx front.length
  linked : Linked .empty (early ++ late)
  lawful : ∀ x ∈ early ++ late, Lawful check ctx x

/-! ## Registration -/

/-- The stages registered for a phase, in the order of their registration. -/
def stagesOf (phase : Phase) (rs : List (Phase × Stage)) : List Stage :=
  (rs.filter fun r => r.1 = phase).map Prod.snd

@[simp]
theorem stagesOf_nil (phase : Phase) : stagesOf phase [] = [] := rfl

/-- Registration appends to the stages of the phase, and only the first main stage counts. -/
theorem add_getD (p : Pipeline) (phase : Phase) (stage : Stage) :
    (p.add phase stage).toOption.getD p =
      ⟨p.pre ++ stagesOf .pre [(phase, stage)],
        p.main.or (stagesOf .once [(phase, stage)]).head?,
        p.post ++ stagesOf .post [(phase, stage)]⟩ := by
  rcases p with ⟨pre, main, post⟩
  cases phase with
  | pre => simp [add, Except.toOption, stagesOf]
  | once => cases main <;> simp [add, Except.toOption, stagesOf]
  | post => simp [add, Except.toOption, stagesOf]

theorem addAll_eq (rs : List (Phase × Stage)) :
    ∀ p : Pipeline, p.addAll rs =
      ⟨p.pre ++ stagesOf .pre rs, p.main.or (stagesOf .once rs).head?,
        p.post ++ stagesOf .post rs⟩ := by
  induction rs with
  | nil =>
      intro p
      simp [addAll, stagesOf]
  | cons r rs ih =>
      intro p
      rcases r with ⟨phase, stage⟩
      rw [addAll, ih, add_getD]
      cases phase <;> simp [stagesOf]

/-! ## One execution -/

/-- The execution of a stage on a state. -/
def perform (check : Check) (ctx : Context) (n : Nat) (stage : Stage) (s : State) : Execution :=
  let o := stage.run ctx s
  ⟨n, stage, s, o, (checked check ctx n o.noted).1⟩

theorem perform_shown (check : Check) (ctx : Context) (n : Nat) (stage : Stage) (s : State) :
    (perform check ctx n stage s).shown = (stage.run ctx s).noted := by
  cases h : (stage.run ctx s).failure <;>
    simp [perform, Execution.shown, Outcome.noted, latestError, h]

/-- An execution is lawful exactly if it is the execution of its stage on what it received. -/
theorem lawful_iff {check : Check} {ctx : Context} {x : Execution} :
    Lawful check ctx x ↔ x = perform check ctx x.number x.stage x.received := by
  constructor
  · intro h
    rcases x with ⟨n, stage, s, o, r⟩
    have hran : o = stage.run ctx s := h.ran
    have hshown := perform_shown check ctx n stage s
    subst hran
    have hlatest : r.error = latestError (stage.run ctx s).state.error (stage.run ctx s).failure
        (check (stage.run ctx s).noted ctx n) := by
      rw [← hshown]
      exact h.latest
    have hkept : r = { (stage.run ctx s).state with error := r.error } := h.kept
    have hr : r = (checked check ctx n (stage.run ctx s).noted).1 := by
      rw [hkept, hlatest]
      cases hf : (stage.run ctx s).failure <;>
        cases hc : check (stage.run ctx s).noted ctx n <;>
          simp [checked, hc, latestError] <;> simp [Outcome.noted, hf]
    simp [perform, ← hr]
  · intro h
    rw [h]
    refine ⟨rfl, ?_, ?_⟩
    · cases hf : (x.stage.run ctx x.received).failure <;>
        cases hc : check (x.stage.run ctx x.received).noted ctx x.number <;>
          simp [perform, checked, hc] <;> simp [Outcome.noted, hf]
    · rw [perform_shown]
      cases hf : (x.stage.run ctx x.received).failure <;>
        cases hc : check (x.stage.run ctx x.received).noted ctx x.number <;>
          simp [perform, checked, hc, hf, latestError] <;> simp [Outcome.noted, hf]

/-! ## Chains of executions -/

@[simp]
theorem finalState_nil (s : State) : finalState s [] = s := rfl

theorem finalState_cons (s : State) (x : Execution) (xs : List Execution) :
    finalState s (x :: xs) = finalState x.result xs := by
  cases xs with
  | nil => rfl
  | cons y ys => simp [finalState, List.getLast?_cons]

theorem finalState_append (s : State) (xs ys : List Execution) :
    finalState s (xs ++ ys) = finalState (finalState s xs) ys := by
  induction xs generalizing s with
  | nil => rfl
  | cons x xs ih => simp [finalState_cons, ih]

theorem linked_append {s : State} {xs ys : List Execution} :
    Linked s (xs ++ ys) ↔ Linked s xs ∧ Linked (finalState s xs) ys := by
  induction xs generalizing s with
  | nil => simp [Linked]
  | cons x xs ih => simp [Linked, ih, finalState_cons, and_assoc]

/-- Places determine lawful executions: of two chains from one state, the one with fewer places
starts the other. -/
theorem prefix_of_places {check : Check} {ctx : Context} :
    ∀ {xs ys : List Execution} {s : State}, Linked s xs → Linked s ys →
      (∀ x ∈ xs, Lawful check ctx x) → (∀ y ∈ ys, Lawful check ctx y) →
      xs.map Execution.place <+: ys.map Execution.place → xs <+: ys := by
  intro xs
  induction xs with
  | nil =>
      intro ys s _ _ _ _ _
      exact List.nil_prefix
  | cons x xs ih =>
      intro ys s hxs hys hlx hly hplaces
      cases ys with
      | nil =>
          have : (x :: xs).map Execution.place = [] := List.prefix_nil.1 hplaces
          cases this
      | cons y ys =>
          have hsplit := List.cons_prefix_cons.1 hplaces
          have hplace : x.stage = y.stage ∧ x.number = y.number := by
            simpa [Execution.place] using hsplit.1
          have hx := lawful_iff.1 (hlx x (List.mem_cons_self ..))
          have hy := lawful_iff.1 (hly y (List.mem_cons_self ..))
          have hxy : x = y := by
            rw [hx, hy, hplace.1, hplace.2, hxs.1, hys.1]
          subst hxy
          have htail : xs <+: ys :=
            ih hxs.2 hys.2 (fun z hz => hlx z (List.mem_cons_of_mem _ hz))
              (fun z hz => hly z (List.mem_cons_of_mem _ hz)) hsplit.2
          exact List.cons_prefix_cons.2 ⟨rfl, htail⟩

/-! ## Steps -/

theorem step_runs (check : Check) (ctx : Context) (n : Nat) (stage : Stage) {phase : Phase}
    {s : State} (h : (s.isFailed && phase.skippedAfterError) = false) :
    (step check ctx n phase stage s).execution? = some (perform check ctx n stage s) ∧
      (step check ctx n phase stage s).result = (perform check ctx n stage s).result := by
  simp [step, h, Step.execution?, perform]

theorem step_skips (check : Check) (ctx : Context) (n : Nat) (stage : Stage) {phase : Phase}
    {s : State} (h : (s.isFailed && phase.skippedAfterError) = true) :
    (step check ctx n phase stage s).execution? = none ∧
      (step check ctx n phase stage s).result = s := by
  simp [step, h, Step.execution?]

theorem executions_cons (x : Step) (xs : List Step) :
    executions (x :: xs) = x.execution?.toList ++ executions xs := by
  cases h : x.execution? <;> simp [executions, h]

theorem executions_append (xs ys : List Step) :
    executions (xs ++ ys) = executions xs ++ executions ys := by
  simp [executions]

@[simp]
theorem lastResult_nil (s : State) : lastResult s [] = s := rfl

theorem lastResult_cons (s : State) (x : Step) (xs : List Step) :
    lastResult s (x :: xs) = lastResult x.result xs := by
  cases xs with
  | nil => rfl
  | cons y ys => simp [lastResult, List.getLast?_cons]

theorem lastResult_append (s : State) (xs ys : List Step) :
    lastResult s (xs ++ ys) = lastResult (lastResult s xs) ys := by
  induction xs generalizing s with
  | nil => rfl
  | cons x xs ih => simp [lastResult_cons, ih]

theorem stepsFrom_append (check : Check) (ctx : Context) (fs gs : List (Phase × Stage)) :
    ∀ (n : Nat) (s : State), stepsFrom check ctx n (fs ++ gs) s =
      stepsFrom check ctx n fs s ++
        stepsFrom check ctx (n + fs.length) gs (lastResult s (stepsFrom check ctx n fs s)) := by
  induction fs with
  | nil =>
      intro n s
      simp [stepsFrom]
  | cons f fs ih =>
      intro n s
      rcases f with ⟨phase, stage⟩
      simp [stepsFrom, ih, lastResult_cons, Nat.add_assoc, Nat.add_comm 1]

/-- After a failure no front stage is executed, and the state stays. -/
theorem stepsFrom_frozen (check : Check) (ctx : Context) :
    ∀ (fs : List (Phase × Stage)) (n : Nat) (s : State),
      (∀ f ∈ fs, f.1.skippedAfterError = true) → s.isFailed = true →
      executions (stepsFrom check ctx n fs s) = [] ∧
        lastResult s (stepsFrom check ctx n fs s) = s := by
  intro fs
  induction fs with
  | nil =>
      intro n s _ _
      exact ⟨rfl, rfl⟩
  | cons f fs ih =>
      intro n s hfs hs
      rcases f with ⟨phase, stage⟩
      have hphase : phase.skippedAfterError = true := hfs (phase, stage) (List.mem_cons_self ..)
      have hskips : (s.isFailed && phase.skippedAfterError) = true := by simp [hs, hphase]
      have hskip := step_skips check ctx n stage hskips
      have hrest := ih (n + 1) s (fun g hg => hfs g (List.mem_cons_of_mem _ hg)) hs
      simp [stepsFrom, executions_cons, lastResult_cons, hskip, hrest]

/-- From a state without error, the front runs up to the first failure. -/
theorem stepsFrom_front (check : Check) (ctx : Context) :
    ∀ (fs : List (Phase × Stage)) (n : Nat) (s : State),
      (∀ f ∈ fs, f.1.skippedAfterError = true) → s.error = none →
      let early := executions (stepsFrom check ctx n fs s)
      early.map Execution.place = ((fs.map Prod.snd).zipIdx n).take early.length ∧
        (∀ x ∈ early.dropLast, x.result.error = none) ∧
        (early.length < fs.length → ∃ x ∈ early.getLast?, x.result.error ≠ none) ∧
        Linked s early ∧ (∀ x ∈ early, Lawful check ctx x) ∧
        lastResult s (stepsFrom check ctx n fs s) = finalState s early := by
  intro fs
  -- The state that reaches a stage of the front has no error, until a stage leaves one.
  induction fs with
  | nil =>
      intro n s _ _
      simp [stepsFrom, executions, Linked]
  | cons f fs ih =>
      intro n s hfs hs
      rcases f with ⟨phase, stage⟩
      have hfs' : ∀ g ∈ fs, g.1.skippedAfterError = true :=
        fun g hg => hfs g (List.mem_cons_of_mem _ hg)
      have hgoes : (s.isFailed && phase.skippedAfterError) = false := by simp [State.isFailed, hs]
      have hruns := step_runs check ctx n stage hgoes
      have hlawful : Lawful check ctx (perform check ctx n stage s) := lawful_iff.2 rfl
      have hcons : executions (stepsFrom check ctx n ((phase, stage) :: fs) s) =
          perform check ctx n stage s ::
            executions (stepsFrom check ctx (n + 1) fs (perform check ctx n stage s).result) := by
        simp [stepsFrom, executions_cons, hruns]
      have hlast : lastResult s (stepsFrom check ctx n ((phase, stage) :: fs) s) =
          lastResult (perform check ctx n stage s).result
            (stepsFrom check ctx (n + 1) fs (perform check ctx n stage s).result) := by
        simp [stepsFrom, lastResult_cons, hruns]
      have hplace : (perform check ctx n stage s).place = (stage, n) := rfl
      have hreceived : (perform check ctx n stage s).received = s := rfl
      rw [hcons, hlast]
      generalize perform check ctx n stage s = x at *
      cases hfail : x.result.error with
      | some e =>
          -- The failure freezes what is left of the front.
          have hfrozen := stepsFrom_frozen check ctx fs (n + 1) x.result hfs'
            (by simp [State.isFailed, hfail])
          rw [hfrozen.1, hfrozen.2]
          refine ⟨by simp [hplace], by simp, ?_, ?_, ?_, rfl⟩
          · intro _
            exact ⟨x, rfl, by simp [hfail]⟩
          · exact ⟨hreceived, trivial⟩
          · simpa using hlawful
      | none =>
          obtain ⟨htaken, hunfailed, hstopped, hlinked, hall, hend⟩ :=
            ih (n + 1) x.result hfs' hfail
          generalize executions (stepsFrom check ctx (n + 1) fs x.result) = early at *
          refine ⟨?_, ?_, ?_, ⟨hreceived, hlinked⟩, ?_, ?_⟩
          · simp [hplace, htaken]
          · cases early with
            | nil => simp
            | cons y ys => simpa [hfail] using hunfailed
          · intro hlen
            obtain ⟨y, hy, hyfail⟩ := hstopped (by simpa using hlen)
            exact ⟨y, by simp_all [List.getLast?_cons], hyfail⟩
          · simpa [hlawful] using hall
          · rw [hend, finalState_cons]

/-- Stages that no failure freezes are all executed. -/
theorem stepsFrom_back (check : Check) (ctx : Context) :
    ∀ (fs : List (Phase × Stage)) (n : Nat) (s : State),
      (∀ f ∈ fs, f.1.skippedAfterError = false) →
      let late := executions (stepsFrom check ctx n fs s)
      late.map Execution.place = (fs.map Prod.snd).zipIdx n ∧
        Linked s late ∧ (∀ x ∈ late, Lawful check ctx x) ∧
        lastResult s (stepsFrom check ctx n fs s) = finalState s late := by
  intro fs
  induction fs with
  | nil =>
      intro n s _
      simp [stepsFrom, executions, Linked]
  | cons f fs ih =>
      intro n s hfs
      rcases f with ⟨phase, stage⟩
      have hphase : phase.skippedAfterError = false := hfs (phase, stage) (List.mem_cons_self ..)
      have hgoes : (s.isFailed && phase.skippedAfterError) = false := by simp [hphase]
      have hruns := step_runs check ctx n stage hgoes
      have hlawful : Lawful check ctx (perform check ctx n stage s) := lawful_iff.2 rfl
      obtain ⟨hplaces, hlinked, hall, hend⟩ :=
        ih (n + 1) (perform check ctx n stage s).result
          (fun g hg => hfs g (List.mem_cons_of_mem _ hg))
      simp only [stepsFrom, executions_cons, lastResult_cons, hruns, Option.toList_some,
        List.singleton_append]
      refine ⟨?_, ⟨rfl, hlinked⟩, ?_, ?_⟩
      · simpa [Execution.place, perform] using hplaces
      · simpa [hlawful] using hall
      · rw [hend, finalState_cons]

/-- Every stage keeps its place, executed or not. -/
theorem stepsFrom_places (check : Check) (ctx : Context) (fs : List (Phase × Stage)) :
    ∀ (n : Nat) (s : State),
      (stepsFrom check ctx n fs s).map (fun x => (x.stage, x.number)) =
        (fs.map Prod.snd).zipIdx n := by
  induction fs with
  | nil =>
      intro n s
      rfl
  | cons f fs ih =>
      intro n s
      rcases f with ⟨phase, stage⟩
      have hstep : (step check ctx n phase stage s).stage = stage ∧
          (step check ctx n phase stage s).number = n := by
        by_cases h : s.isFailed && phase.skippedAfterError <;> simp [step, h]
      simp [stepsFrom, hstep, ih]

/-- A stage is skipped only after a failure; then the state stays, and all that is logged is that
it was skipped. -/
theorem step_skipped {check : Check} {ctx : Context} {n : Nat} {phase : Phase} {stage : Stage}
    {s : State} (h : (step check ctx n phase stage s).outcome = none) :
    let x := step check ctx n phase stage s
    x.received.error ≠ none ∧ x.result = x.received ∧
      x.log = [announcement "Skipping" x.phase x.number x.stage.name " after error"] := by
  by_cases hskip : s.isFailed && phase.skippedAfterError
  · have hfailed : s.error ≠ none := by
      simp only [State.isFailed, Bool.and_eq_true] at hskip
      exact Option.isSome_iff_ne_none.1 hskip.1
    simp [step, hskip, hfailed]
  · simp [step, hskip] at h

theorem mem_stepsFrom {check : Check} {ctx : Context} {x : Step} :
    ∀ {fs : List (Phase × Stage)} {n : Nat} {s : State}, x ∈ stepsFrom check ctx n fs s →
      ∃ m phase stage t, x = step check ctx m phase stage t := by
  intro fs
  induction fs with
  | nil =>
      intro n s h
      cases h
  | cons f fs ih =>
      intro n s h
      rcases f with ⟨phase, stage⟩
      rcases List.mem_cons.1 h with h | h
      · exact ⟨n, phase, stage, s, h⟩
      · exact ih h

/-! ## Performances -/

/-- The rules of a run leave no choice. -/
theorem Performance.early_prefix {check : Check} {ctx : Context} {front back : List Stage}
    {early late early' late' : List Execution}
    (h : Performance check ctx front back early late)
    (h' : Performance check ctx front back early' late')
    (hlen : early.length ≤ early'.length) : early = early' := by
  have hplaces : early.map Execution.place <+: early'.map Execution.place := by
    rw [h.prefixed, h'.prefixed]
    exact List.take_prefix_take_left hlen
  have hprefix : early <+: early' :=
    prefix_of_places (linked_append.1 h.linked).1 (linked_append.1 h'.linked).1
      (fun x hx => h.lawful x (List.mem_append_left _ hx))
      (fun x hx => h'.lawful x (List.mem_append_left _ hx)) hplaces
  rcases Nat.lt_or_eq_of_le hlen with hlt | heq
  · -- The shorter chain would have stopped at an error that the longer one passes over.
    exfalso
    have hbound : early'.length ≤ front.length := by
      have := congrArg List.length h'.prefixed
      simp at this
      omega
    obtain ⟨x, hx, hfail⟩ := h.stopped (by omega)
    have hinside : x ∈ early'.dropLast := by
      obtain ⟨rest, rfl⟩ := hprefix
      have hrest : rest ≠ [] := by
        rintro rfl
        simp at hlt
      rw [List.dropLast_append_of_ne_nil hrest]
      exact List.mem_append_left _ (List.mem_of_getLast? hx)
    exact hfail (h'.unfailed x hinside)
  · exact hprefix.eq_of_length heq

theorem Performance.unique {check : Check} {ctx : Context} {front back : List Stage}
    {early late early' late' : List Execution}
    (h : Performance check ctx front back early late)
    (h' : Performance check ctx front back early' late') : early' = early ∧ late' = late := by
  have hearly : early' = early := by
    rcases Nat.le_total early.length early'.length with hle | hle
    · exact (h.early_prefix h' hle).symm
    · exact h'.early_prefix h hle
  subst hearly
  have hplaces : late'.map Execution.place = late.map Execution.place := by
    rw [h.complete, h'.complete]
  have hprefix : late' <+: late :=
    prefix_of_places (linked_append.1 h'.linked).2 (linked_append.1 h.linked).2
      (fun x hx => h'.lawful x (List.mem_append_right _ hx))
      (fun x hx => h.lawful x (List.mem_append_right _ hx)) (hplaces ▸ List.prefix_rfl)
  have hlength : late'.length = late.length := by
    simpa using congrArg List.length hplaces
  exact ⟨rfl, hprefix.eq_of_length hlength⟩

/-! ## Verdicts and places -/

/-- The place that an error of a check names, if it names one. -/
def ValidationError.place? : ValidationError → Option Nat
  | invalidState n _ => some n
  | invalidContext n _ => some n
  | _ => none

theorem Registry.violations_place? {r : Registry} {id : String} {j : Json} {e : ValidationError}
    (h : r.violations id j = .error e) : e.place? = none := by
  cases hget : r.get? id with
  | none =>
      have hmissing : ValidationError.missingSchema id = e := by
        simpa [Registry.violations, hget] using h
      rw [← hmissing]
      rfl
  | some rule => simp [Registry.violations, hget] at h

theorem Registry.check_place? {r : Registry} {s : State} {ctx : Context} {n : Nat}
    {e : ValidationError} (h : r.check s ctx n = .error e) :
    e.place? = none ∨ e.place? = some n := by
  rw [Registry.check_eq] at h
  split at h
  · rename_i hs
    cases h
    exact .inl (violations_place? hs)
  · cases h
    exact .inr rfl
  · split at h
    · rename_i hc
      cases h
      exact .inl (violations_place? hc)
    · cases h
      exact .inr rfl
    · cases h

/-- Schemas that cannot be read are nobody's place. -/
theorem SchemaSource.registry_place? {source : SchemaSource} {files : Files} {e : ValidationError}
    (h : source.registry files = .error e) : e.place? = none := by
  cases source with
  | bundled => cases h
  | directory path =>
      have hunloaded : e.Unloaded := unloaded_of_ofDirectory h
      cases hunloaded <;> rfl

/-- A check by schemas names no place but the one that it is asked about. -/
theorem SchemaSource.check_place? {source : SchemaSource} {files : Files} {s : State}
    {ctx : Context} {n : Nat} {e : ValidationError}
    (h : source.check files s ctx n = .error e) : e.place? = none ∨ e.place? = some n := by
  rcases Fallible.bind_eq_error.1 h with hread | ⟨r, -, hcheck⟩
  · exact .inl (registry_place? hread)
  · exact Registry.check_place? hcheck

/-! ## The run -/

theorem front_skipped (p : Pipeline) :
    ∀ f ∈ p.pre.map (Phase.pre, ·) ++ p.main.toList.map (Phase.once, ·),
      f.1.skippedAfterError = true := by
  intro f hf
  rcases List.mem_append.1 hf with hf | hf
  · obtain ⟨stage, -, rfl⟩ := List.mem_map.1 hf
    rfl
  · obtain ⟨stage, -, rfl⟩ := List.mem_map.1 hf
    rfl

theorem back_kept (p : Pipeline) :
    ∀ f ∈ p.post.map (Phase.post, ·), f.1.skippedAfterError = false := by
  intro f hf
  obtain ⟨stage, -, rfl⟩ := List.mem_map.1 hf
  rfl

/-- The steps of a pipeline perform its stages. -/
theorem exists_performance (p : Pipeline) (check : Check) (ctx : Context) :
    ∃ early late,
      executions (p.steps check ctx) = early ++ late ∧
      Performance check ctx (p.pre ++ p.main.toList) p.post early late ∧
      lastResult .empty (p.steps check ctx) = finalState .empty (early ++ late) := by
  let fs : List (Phase × Stage) := p.pre.map (Phase.pre, ·) ++ p.main.toList.map (Phase.once, ·)
  let gs : List (Phase × Stage) := p.post.map (Phase.post, ·)
  have hfs : fs.map Prod.snd = p.pre ++ p.main.toList := by
    simp [fs, Function.comp_def]
  have hgs : gs.map Prod.snd = p.post := by
    simp [gs, Function.comp_def]
  have hlen : fs.length = (p.pre ++ p.main.toList).length := by
    rw [← hfs, List.length_map]
  obtain ⟨hplaces, hunfailed, hstopped, hlinked, hlawful, hend⟩ :=
    stepsFrom_front check ctx fs 0 .empty (front_skipped p) rfl
  obtain ⟨hcomplete, hlinked', hlawful', hend'⟩ :=
    stepsFrom_back check ctx gs fs.length (lastResult .empty (stepsFrom check ctx 0 fs .empty))
      (back_kept p)
  have hsteps : p.steps check ctx = stepsFrom check ctx 0 fs .empty ++
      stepsFrom check ctx fs.length gs (lastResult .empty (stepsFrom check ctx 0 fs .empty)) := by
    have happend := stepsFrom_append check ctx fs gs 0 .empty
    rw [Nat.zero_add] at happend
    exact happend
  have hexec : executions (p.steps check ctx) =
      executions (stepsFrom check ctx 0 fs .empty) ++ executions (stepsFrom check ctx fs.length gs
        (lastResult .empty (stepsFrom check ctx 0 fs .empty))) := by
    rw [hsteps, executions_append]
  refine ⟨_, _, hexec, ⟨?_, hunfailed, ?_, ?_, ?_, ?_⟩, ?_⟩
  · rw [← hfs]
    exact hplaces
  · intro hlt
    exact hstopped (hlen ▸ hlt)
  · rw [← hlen, ← hgs]
    exact hcomplete
  · -- The back receives what the front left.
    exact linked_append.2 ⟨hlinked, hend ▸ hlinked'⟩
  · intro x hx
    rcases List.mem_append.1 hx with hx | hx
    · exact hlawful x hx
    · exact hlawful' x hx
  · rw [hsteps, lastResult_append, hend', hend, finalState_append]

/-- A run is the one performance of its stages.  The front, the stages before the main stage and
the main stage, is executed up to the first error; every stage behind it is executed once; each
receives what the one before it left; all stages keep their places, and a skipped one changes
nothing and is asked about nothing; an error of a check by schemas names the place of the stage. -/
theorem run_performs (rs : List (Phase × Stage)) (check : Check) (ctx : Context) :
    let p := empty.addAll rs
    let front := stagesOf .pre rs ++ (stagesOf .once rs).head?.toList
    let back := stagesOf .post rs
    ∃ early late,
      executions (p.steps check ctx) = early ++ late ∧
      Performance check ctx front back early late ∧
      (∀ early' late', Performance check ctx front back early' late' →
        early' = early ∧ late' = late) ∧
      p.run check ctx = ensureErrorStatus (finalState .empty (early ++ late)) ∧
      (p.steps check ctx).map (fun x => (x.stage, x.number)) = (front ++ back).zipIdx ∧
      (∀ x ∈ p.steps check ctx, x.outcome = none →
        x.received.error ≠ none ∧ x.result = x.received ∧
          x.log = [announcement "Skipping" x.phase x.number x.stage.name " after error"]) ∧
      (∀ source files, check = SchemaSource.check source files →
        ∀ x ∈ early ++ late, ∀ e, check x.shown ctx x.number = .error e →
          e.place? = none ∨ e.place? = some x.number) := by
  intro p front back
  have hp : p = ⟨stagesOf .pre rs, (stagesOf .once rs).head?, stagesOf .post rs⟩ := by
    simp [p, addAll_eq, empty]
  obtain ⟨early, late, hexec, hperf, hfinal⟩ := exists_performance p check ctx
  have hfront : p.pre ++ p.main.toList = front := by rw [hp]
  have hback : p.post = back := by rw [hp]
  rw [hfront, hback] at hperf
  refine ⟨early, late, hexec, hperf, fun _ _ h => hperf.unique h, ?_, ?_, ?_, ?_⟩
  · rw [run, hfinal]
  · have hstages : p.stages.map Prod.snd = front ++ back := by
      simp [stages, ← hfront, ← hback, Function.comp_def]
    rw [steps, stepsFrom_places, hstages]
  · intro x hx hskip
    obtain ⟨n, phase, stage, s, rfl⟩ := mem_stepsFrom hx
    exact step_skipped hskip
  · rintro source files rfl x - e he
    exact SchemaSource.check_place? he

end Pipeline

end PagePress
